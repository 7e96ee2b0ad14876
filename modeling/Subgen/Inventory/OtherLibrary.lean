import Subgen.Inventory.Backlog

/-!
# The library of the other items

The library for the items that belong to no root is made when the first of them comes. Beside a state
without it stands the state in which it is there and empty (`Beside`): no section under the lock can tell
them apart, unless it is given the name of that library.

So a run can be compared with one in which a reservation has made that library and was then taken back: from
then on the two states are beside one another, step by step, and what is published differs by the empty
library alone. For each section there are two cases, that it needs the library and makes it where it is
missing, or that it does not (`Bare`), in which case the state without it stays without it.

* `Beside.perform`, `Beside.step`: the calls and the steps of the threads;
* `Beside.snapshot`: what is published.
-/

namespace Subgen

namespace Inventory

variable {config : InventoryConfig} {s s' t t' : Inventory} {label : Text}
  {f : MutableLibrary → MutableLibrary}

/-- The library of the other items is there. -/
def withOther (s : Inventory) : Inventory :=
  { s with libraries := s.libraries.setDefault otherLabel (.new otherLabel) }

/-- The library of the other items is not there, and nothing that came while the scan was running waits
    for it. -/
structure Bare (s : Inventory) : Prop where
  absent : s.libraries.get otherLabel = none
  runtime : ∀ key, s.runtimeItemsDuringScan.get key ≠ some otherLabel

/-- The states are the same, but for an empty library of the second one. -/
inductive Beside (s : Inventory) : Inventory → Prop
  | same : Beside s s
  | other (h : Bare s) : Beside s s.withOther

/-- A library that is there is not the missing one. -/
theorem Bare.ne_other (h : Bare s) (hlabel : s.libraries.contains label = true) : label ≠ otherLabel := by
  rintro rfl
  obtain ⟨l, hl⟩ := OrderedDict.contains_iff.1 hlabel
  exact Option.some_ne_none l (hl.symm.trans h.absent)

/-- Nor is the library of a path. -/
theorem Bare.ne_of_labelForPath (h : Bare s) (hc : Counted s) {path : Option Text}
    (hlabel : s.labelForPath path = some label) : label ≠ otherLabel := by
  obtain ⟨root, hroot, rfl⟩ := labelForPath_mem hlabel
  exact h.ne_other (hc.rooted root hroot)

/-- Nor is the library of an item that waits. -/
theorem Bare.ne_of_pending (h : Bare s) (hc : Counted s) {key : ItemKey} {item : PendingItem}
    (hget : s.pendingItems.get key = some item) : item.label ≠ otherLabel := by
  obtain ⟨l, hl⟩ := hc.tally.named item (OrderedDict.mem_values_of_get hget)
  exact h.ne_other (OrderedDict.contains_iff.2 ⟨l, hl⟩)

/-! ## What can be told of the two -/

/-- The same libraries are there, but for one. -/
theorem Beside.contains (h : Beside s t) (hlabel : label ≠ otherLabel) :
    t.libraries.contains label = s.libraries.contains label := by
  rcases h with _ | h
  · rfl
  · rw [Bool.eq_iff_iff, withOther, OrderedDict.contains_setDefault]
    exact or_iff_right hlabel

/-- The libraries are left as they are. -/
theorem Beside.frame (h : Beside s t) (g : Inventory → Inventory)
    (hg : ∀ s libraries, g { s with libraries := libraries } = { g s with libraries := libraries })
    (hruntime : ∀ key, (g s).runtimeItemsDuringScan.get key = some otherLabel →
      s.runtimeItemsDuringScan.get key = some otherLabel) : Beside (g s) (g t) := by
  rcases h with _ | h
  · exact .same
  · have hsame : g s = { g s with libraries := s.libraries } := hg s s.libraries
    have hkept : (g s).libraries = s.libraries := by rw [hsame]
    have heq : g s.withOther = (g s).withOther := by
      rw [withOther, hg, withOther, hkept]
    rw [heq]
    exact .other ⟨hkept ▸ h.absent, fun key hkey => h.runtime key (hruntime key hkey)⟩

/-- A change that leaves an empty library as it is. -/
theorem Beside.modify (h : Beside s t) (label : Text)
    (hf : label = otherLabel → f (.new otherLabel) = .new otherLabel) :
    Beside { s with libraries := s.libraries.modify label f }
      { t with libraries := t.libraries.modify label f } := by
  rcases h with _ | h
  · exact .same
  · have habsent : (s.libraries.modify label f).get otherLabel = none := by
      rw [OrderedDict.get_modify]
      split
      · next heq => rw [← heq, h.absent, Option.map_none]
      · exact h.absent
    have heq : s.withOther.libraries.modify label f =
        (s.libraries.modify label f).setDefault otherLabel (.new otherLabel) := by
      by_cases hlabel : label = otherLabel
      · subst hlabel
        exact OrderedDict.modify_setDefault_of_eq h.absent (hf rfl)
      · exact OrderedDict.modify_setDefault_of_ne hlabel _
    have hbare : Bare { s with libraries := s.libraries.modify label f } := ⟨habsent, h.runtime⟩
    rw [heq]
    exact .other hbare

/-- The scan has the same items left to visit. -/
theorem Beside.scanUnvisitedItems (h : Beside s t) : t.scanUnvisitedItems = s.scanUnvisitedItems := by
  rcases h with _ | _ <;> rfl

/-- A loop keeps two inventories beside each other if one round does. -/
theorem Beside.foldl {α : Type} {f : Inventory → α → Inventory} (xs : List α)
    (hf : ∀ s t, ∀ x ∈ xs, Beside s t → Beside (f s x) (f t x)) (h : Beside s t) :
    Beside (xs.foldl f s) (xs.foldl f t) := by
  induction xs generalizing s t with
  | nil => exact h
  | cons x xs ih =>
    exact ih (fun s t y hy => hf s t y (List.mem_cons_of_mem x hy)) (hf s t x List.mem_cons_self h)

/-- The two take the same branch. -/
theorem beside_ite {c : Prop} [Decidable c] (hpos : c → Beside s t) (hneg : ¬c → Beside s' t') :
    Beside (if c then s else s') (if c then t else t') := by
  split
  · next hc => exact hpos hc
  · next hc => exact hneg hc

/-- The same, of calls that return something as well. -/
theorem beside_fst_ite {α : Type} {c : Prop} [Decidable c] {p q p' q' : Inventory × α}
    (hpos : c → Beside p.1 q.1) (hneg : ¬c → Beside p'.1 q'.1) :
    Beside (if c then p else p').1 (if c then q else q').1 := by
  split
  · next hc => exact hpos hc
  · next hc => exact hneg hc

/-- What keeps the items that came has none of the other ones. -/
theorem get_erase_imp {d : OrderedDict ItemKey Text} {key key' : ItemKey}
    (h : (d.erase key).get key' = some label) : d.get key' = some label := by
  rw [OrderedDict.get_erase] at h
  split at h
  · cases h
  · exact h

/-! ## What a scan records -/

/-- `stop` makes no library. -/
theorem Bare.stop (h : Bare s) : Beside s.stop s.withOther.stop :=
  beside_ite (fun _ => (Beside.other h).frame cancelWatchdog (fun _ _ => rfl) fun _ => id) fun _ =>
    (Beside.other h).frame (fun s =>
      { s.cancelWatchdog with
        scanCancelled := true
        scanIngressOpen := false
        scanComplete := false
        scanFinished := true
        scanReady := true }) (fun _ _ => rfl) fun _ => id

/-- The total of another library is set. -/
theorem Bare.setLibraryTotal (h : Bare s) (hlabel : label ≠ otherLabel) (total : ℤ)
    (generation : Option ℤ) : Beside (s.setLibraryTotal label total generation)
      (s.withOther.setLibraryTotal label total generation) :=
  beside_ite (fun _ => .other h) fun _ => (Beside.other h).modify label fun heq => absurd heq hlabel

/-- Items of another library are scanned. -/
theorem Bare.recordScanned (h : Bare s) (hlabel : label ≠ otherLabel) (count : ℤ)
    (generation : Option ℤ) : Beside (s.recordScanned label count generation)
      (s.withOther.recordScanned label count generation) :=
  beside_ite (fun _ => .other h) fun _ => (Beside.other h).modify label fun heq => absurd heq hlabel

/-- An error is counted on both sides. -/
theorem Bare.recordScanError (h : Bare s) (generation : Option ℤ) :
    Beside (s.recordScanError generation) (s.withOther.recordScanError generation) :=
  beside_ite (fun _ => .other h) fun _ =>
    (Beside.other h).frame (fun s => { s with scanErrors := s.scanErrors + 1 }) (fun _ _ => rfl) fun _ => id

/-- An item of another library is counted. -/
theorem Bare.recordCountedItem (h : Bare s) (config : InventoryConfig) (hlabel : label ≠ otherLabel)
    (path : Option Text) (generation : Option ℤ) : Beside (s.recordCountedItem config label path generation)
      (s.withOther.recordCountedItem config label path generation) := by
  have hcontains := (Beside.other h).contains hlabel
  unfold Inventory.recordCountedItem
  rcases pathKey config.sha256 path with _ | key
  · exact .other h
  · dsimp only
    rw [hcontains]
    exact beside_ite (fun _ => .other h) fun _ => (Beside.other h).frame (fun s =>
      { s with
        postCutoffRemovedItems := s.postCutoffRemovedItems.erase key
        scanUnvisitedItems := (s.scanUnvisitedItems.setDefault label ∅).modify label (insert key)
        countedItems := s.countedItems.insert key label }) (fun _ _ => rfl) fun _ => id

/-- An item of another library is scanned. -/
theorem Bare.recordScannedItem (h : Bare s) (config : InventoryConfig) (hlabel : label ≠ otherLabel)
    (path : Option Text) (generation : Option ℤ) : Beside (s.recordScannedItem config label path generation)
      (s.withOther.recordScannedItem config label path generation) := by
  have hcontains := (Beside.other h).contains hlabel
  have hscanned := (Beside.other h).modify (f := addScanned 1) label fun heq => absurd heq hlabel
  unfold Inventory.recordScannedItem
  rw [hcontains]
  refine beside_ite (fun _ => .other h) fun _ => ?_
  rcases pathKey config.sha256 path with _ | key
  · exact hscanned
  · exact hscanned.frame (fun s =>
      { s with
        scanUnvisitedItems := (s.scanUnvisitedItems.setDefault label ∅).modify label (·.erase key)
        runtimeItemsDuringScan := s.runtimeItemsDuringScan.erase key
        postCutoffRuntimeItems := s.postCutoffRuntimeItems.erase key
        postCutoffRemovedItems := s.postCutoffRemovedItems.erase key
        scanSeenItems := insert key s.scanSeenItems
        countedItems := s.countedItems.insert key label }) (fun _ _ => rfl) fun _ => get_erase_imp

/-- A file event begins on both sides. -/
theorem Bare.acquireScanEvent (h : Bare s) :
    Beside s.acquireScanEvent.1 s.withOther.acquireScanEvent.1 :=
  beside_fst_ite (fun _ => .other h) fun _ => (Beside.other h).frame (fun s' =>
    { s' with
      scanIngressInflight :=
        s.scanIngressInflight.insert s.scanGeneration (s.inflight s.scanGeneration + 1) }) (fun _ _ => rfl)
      fun _ => id

/-- A file event ends on both sides. -/
theorem Bare.releaseScanEvent (h : Bare s) (generation : ℤ) :
    Beside (s.releaseScanEvent generation) (s.withOther.releaseScanEvent generation) :=
  beside_ite (fun _ => (Beside.other h).frame (fun s =>
      { s with scanIngressInflight := s.scanIngressInflight.erase generation }) (fun _ _ => rfl) fun _ => id)
    fun _ => (Beside.other h).frame (fun s' =>
      { s' with
        scanIngressInflight := s.scanIngressInflight.insert generation (s.inflight generation - 1) })
      (fun _ _ => rfl) fun _ => id

/-- The cutoff splits the arrivals in the same way. -/
theorem Bare.closeScanEventCutoff (h : Bare s) (generation : Option ℤ) :
    Beside (s.closeScanEventCutoff generation) (s.withOther.closeScanEventCutoff generation) :=
  beside_ite (fun _ => (Beside.other h).frame (fun s => { s with scanIngressOpen := false })
    (fun _ _ => rfl) fun _ => id) fun _ => .other h

/-! ## Items come and go -/

/-- An arrival in another library does not wait for the missing one. -/
theorem addRuntimeItem_ne (hne : label ≠ otherLabel) (key : ItemKey) (generation : Option ℤ) (key' : ItemKey)
    (h : (s.addRuntimeItem key label generation).runtimeItemsDuringScan.get key' = some otherLabel) :
    s.runtimeItemsDuringScan.get key' = some otherLabel := by
  rw [addRuntimeItem, OrderedDict.get_insert] at h
  split at h
  · exact absurd (Option.some.inj h) hne
  · exact h

/-- An arrival in another library is noted on both sides. -/
theorem Beside.addRuntimeItem (h : Beside s t) (hne : label ≠ otherLabel) (key : ItemKey)
    (generation : Option ℤ) :
    Beside (s.addRuntimeItem key label generation) (t.addRuntimeItem key label generation) :=
  h.frame (fun s => s.addRuntimeItem key label generation) (fun _ _ => rfl)
    (addRuntimeItem_ne hne key generation)

/-- An item that belongs to none needs the library, and one that belongs to a root does not. -/
theorem Bare.bindLabel (h : Bare s) (hc : Counted s) (path : Option Text) :
    s.withOther.bindLabel path = s.bindLabel path ∨
      ∃ label, label ≠ otherLabel ∧ s.bindLabel path = (label, s.libraries) ∧
        s.withOther.bindLabel path = (label, s.withOther.libraries) := by
  have hsame : s.withOther.labelForPath path = s.labelForPath path := rfl
  unfold Inventory.bindLabel
  rw [hsame]
  rcases hlabel : s.labelForPath path with _ | label
  · refine .inl (congrArg (Prod.mk otherLabel) (OrderedDict.setDefault_of_contains ?_ _))
    exact (OrderedDict.contains_setDefault ..).2 (.inl rfl)
  · exact .inr ⟨label, h.ne_of_labelForPath hc hlabel, rfl, rfl⟩

/-- An item is enqueued; if it belongs to no library, both have the library now. -/
theorem Bare.enqueue (h : Bare s) (hc : Counted s) (key : ItemKey) (path : Option Text) (source : Text)
    (generation : Option ℤ) :
    Beside (s.enqueue key path source generation) (s.withOther.enqueue key path source generation) := by
  rcases h.bindLabel hc path with hsame | ⟨label, hne, hbound, hbound'⟩
  · unfold Inventory.enqueue
    rw [hsame]
    exact .same
  · unfold Inventory.enqueue
    rw [hbound, hbound']
    have hcame : ∀ counted, Beside _ _ := fun counted : Bool =>
      ((Beside.other h).modify (f := .enqueued counted) label fun heq => absurd heq hne).frame (fun s =>
        { s with
          postCutoffRemovedItems := s.postCutoffRemovedItems.erase key
          unboundPendingPaths := s.keepUnbound key path
          pendingItems := s.pendingItems.insert key ⟨label, counted, generation⟩ }) (fun _ _ => rfl)
        fun _ => id
    refine beside_ite (fun _ => ?_) fun _ => beside_ite (fun _ => ?_) fun _ => hcame _
    · exact (hcame _).frame (fun s => { s with countedItems := s.countedItems.insert key label })
        (fun _ _ => rfl) fun _ => id
    · exact (hcame _).addRuntimeItem hne key generation

/-- A reservation is taken on both sides. -/
theorem Bare.markItemQueued (h : Bare s) (hc : Counted s) (config : InventoryConfig) (path : Option Text)
    (source : Text) (generation : Option ℤ) : Beside (s.markItemQueued config path source generation).1
      (s.withOther.markItemQueued config path source generation).1 := by
  unfold Inventory.markItemQueued
  rcases pathKey config.sha256 path with _ | key
  · exact .other h
  · exact beside_fst_ite (fun _ => .other h) fun _ => h.enqueue hc key path source generation

/-- An arrival is observed on both sides. -/
theorem Bare.markItemObserved (h : Bare s) (hc : Counted s) (config : InventoryConfig) (path : Option Text)
    (generation : Option ℤ) : Beside (s.markItemObserved config path generation).1
      (s.withOther.markItemObserved config path generation).1 := by
  unfold Inventory.markItemObserved
  rcases pathKey config.sha256 path with _ | key
  · exact .other h
  · refine beside_fst_ite (fun _ => .other h) fun _ => ?_
    rcases h.bindLabel hc path with hsame | ⟨label, hne, hbound, hbound'⟩
    · unfold Inventory.observe
      rw [hsame]
      exact .same
    · unfold Inventory.observe
      rw [hbound, hbound']
      refine beside_ite (fun _ => ?_) fun _ => ?_
      · exact ((Beside.other h).modify (f := fun l =>
          { l with total := l.total + 1, scanned := l.scanned + 1 }) label fun heq => absurd heq hne).frame
            (fun s => { s with
              postCutoffRemovedItems := s.postCutoffRemovedItems.erase key
              countedItems := s.countedItems.insert key label }) (fun _ _ => rfl) fun _ => id
      · exact ((Beside.other h).frame (fun s =>
          { s with postCutoffRemovedItems := s.postCutoffRemovedItems.erase key })
            (fun _ _ => rfl) fun _ => id).addRuntimeItem hne key generation

/-- An item leaves the queue on both sides. -/
theorem Beside.dequeue (h : Beside s t) (key : ItemKey) (item : Option PendingItem) :
    Beside (s.dequeue key item) (t.dequeue key item) := by
  rcases item with _ | item
  · exact h
  · exact (h.modify (f := .dequeued) item.label fun _ => rfl).frame
      (fun s => { s with pendingItems := s.pendingItems.erase key }) (fun _ _ => rfl) fun _ => id

/-- Nothing of an item is known any more. -/
theorem Beside.forget (h : Beside s t) (key : ItemKey) : Beside (s.forget key) (t.forget key) :=
  h.frame (fun s => s.forget key) (fun _ _ => rfl) fun _ => get_erase_imp

/-- An item is completed on both sides. -/
theorem Bare.markItemCompleted (h : Bare s) (config : InventoryConfig) (path : Option Text)
    (generation : Option ℤ) : Beside (s.markItemCompleted config path generation).1
      (s.withOther.markItemCompleted config path generation).1 := by
  have hsame : ∀ key, s.withOther.pendingItems.get key = s.pendingItems.get key := fun _ => rfl
  unfold Inventory.markItemCompleted
  rcases pathKey config.sha256 path with _ | key
  · exact .other h
  · refine beside_fst_ite (fun _ => .other h) fun _ => ?_
    rw [hsame]
    rcases s.pendingItems.get key with _ | item
    · exact .other h
    · exact ((Beside.other h).dequeue key (some item)).forget key

/-- A reservation is cancelled on both sides. -/
theorem Bare.cancelItemQueue (h : Bare s) (hc : Counted s) (config : InventoryConfig) (path : Option Text)
    (generation : Option ℤ) : Beside (s.cancelItemQueue config path generation).1
      (s.withOther.cancelItemQueue config path generation).1 := by
  have hsame : ∀ key, s.withOther.pendingItems.get key = s.pendingItems.get key := fun _ => rfl
  unfold Inventory.cancelItemQueue
  rcases pathKey config.sha256 path with _ | key
  · exact .other h
  · refine beside_fst_ite (fun _ => .other h) fun _ => ?_
    rw [hsame]
    rcases hget : s.pendingItems.get key with _ | item
    · exact .other h
    · have hgone := ((Beside.other h).dequeue key (some item)).forget key
      dsimp only
      rw [(Beside.other h).contains (h.ne_of_pending hc hget)]
      refine beside_fst_ite (fun _ => ?_) fun _ => hgone
      exact (hgone.modify (f := fun l =>
        { l with total := max 0 (l.total - 1), scanned := max 0 (l.scanned - 1) }) item.label
          fun _ => rfl).frame (fun s => { s with countedItems := s.countedItems.erase key })
            (fun _ _ => rfl) fun _ => id

/-! ## Items are removed and moved -/

/-- An item leaves the scan on both sides. -/
theorem Beside.leaveScan (h : Beside s t) (key : ItemKey) : Beside (s.leaveScan key) (t.leaveScan key) :=
  h.frame (fun s => s.leaveScan key) (fun _ _ => rfl) fun _ => get_erase_imp

/-- A removal is noted on both sides. -/
theorem Beside.noteRemoved (h : Beside s t) (key : ItemKey) (known : Bool) (generation : Option ℤ) :
    Beside (s.noteRemoved key known generation) (t.noteRemoved key known generation) := by
  rcases h with _ | h
  · exact .same
  · exact beside_ite (fun _ => (Beside.other h).frame (fun s =>
      { s with postCutoffRemovedItems := insert key s.postCutoffRemovedItems }) (fun _ _ => rfl) fun _ => id)
      fun _ => .other h

/-- Of an empty library nothing can be taken away. -/
theorem uncount_new (wasScanned : Bool) : uncount wasScanned (.new otherLabel) = .new otherLabel := by
  cases wasScanned <;> rfl

/-- An item leaves the queue and the scan, and its removal is noted. -/
theorem Bare.leave (h : Bare s) (key : ItemKey) (item : Option PendingItem) (known : Bool)
    (generation : Option ℤ) : Beside (((s.dequeue key item).leaveScan key).noteRemoved key known generation)
      (((s.withOther.dequeue key item).leaveScan key).noteRemoved key known generation) :=
  (((Beside.other h).dequeue key item).leaveScan key).noteRemoved key known generation

/-- A file is removed on both sides. -/
theorem Bare.markItemRemoved (h : Bare s) (config : InventoryConfig) (path : Option Text)
    (generation : Option ℤ) : Beside (s.markItemRemoved config path generation).1
      (s.withOther.markItemRemoved config path generation).1 := by
  have hleaving : ∀ key, s.withOther.leavingLabel key path = s.leavingLabel key path := fun _ => rfl
  have hcounted : ∀ key, s.withOther.countedItems.get key = s.countedItems.get key := fun _ => rfl
  unfold Inventory.markItemRemoved
  rcases pathKey config.sha256 path with _ | key
  · exact .other h
  · refine beside_fst_ite (fun _ => .other h) fun _ => ?_
    have hgone := h.leave key (s.pendingItems.get key) (s.isKnown key) generation
    dsimp only
    rw [hleaving, hcounted]
    rcases s.leavingLabel key path with _ | label
    · exact hgone
    · rcases s.countedItems.get key with _ | _
      · exact hgone
      · exact hgone.modify label fun _ => uncount_new _

/-- The old path of a file is no longer counted. -/
theorem Beside.uncountMoved (h : Beside s t) (source : ItemKey) (counted : Text) (transferred : Option Text)
    (before : Inventory) : Beside (s.uncountMoved source counted transferred before)
      (t.uncountMoved source counted transferred before) :=
  beside_ite (fun _ => h) fun _ => h.modify counted fun _ => uncount_new _

/-- The count of a file goes over to another library. -/
theorem Beside.transfer (h : Beside s t) (hne : label ≠ otherLabel) (source destination : ItemKey)
    (counted : Text) (before : Inventory) (generation : Option ℤ) :
    Beside (s.transfer source destination counted label before generation)
      (t.transfer source destination counted label before generation) := by
  have hcontains := h.contains hne
  unfold Inventory.transfer
  rw [hcontains]
  refine beside_ite (fun _ => h) fun _ => ?_
  rcases h with _ | h
  · exact .same
  · have hcounted : ∀ f : MutableLibrary → MutableLibrary, Beside
        { s with libraries := if counted = label then s.libraries else s.libraries.modify label f }
        { s.withOther with
          libraries :=
            if counted = label then s.withOther.libraries else s.withOther.libraries.modify label f } := by
      intro f
      by_cases hsame : counted = label
      · rw [if_pos hsame, if_pos hsame]
        exact .other h
      · rw [if_neg hsame, if_neg hsame]
        exact (Beside.other h).modify label fun heq => absurd heq hne
    have hmoved := fun f => (hcounted f).frame (fun s =>
      { s with
        countedItems := s.countedItems.insert destination label
        postCutoffRemovedItems := s.postCutoffRemovedItems.erase destination
        scanSeenItems :=
          if before.wasScanned source then insert destination s.scanSeenItems else s.scanSeenItems
        scanUnvisitedItems :=
          if !before.wasScanned source ∧ before.scanUnvisitedItems.values.any (source ∈ ·) ∧
              !s.scanFinished then
            (s.scanUnvisitedItems.setDefault label ∅).modify label (insert destination)
          else s.scanUnvisitedItems }) (fun _ _ => rfl) fun _ => id
    exact beside_ite (fun _ => hmoved _) fun _ => (hmoved _).addRuntimeItem hne destination generation

/-- A file is moved on both sides. -/
theorem Bare.markItemMoved (h : Bare s) (hc : Counted s) (config : InventoryConfig)
    (source destination : Option Text) (generation : Option ℤ) :
    Beside (s.markItemMoved config source destination generation).1
      (s.withOther.markItemMoved config source destination generation).1 := by
  have hcounted : ∀ key, s.withOther.countedItems.get key = s.countedItems.get key := fun _ => rfl
  unfold Inventory.markItemMoved
  rcases pathKey config.sha256 source with _ | source
  · exact .other h
  · rcases pathKey config.sha256 destination with _ | target
    · exact .other h
    · refine beside_fst_ite (fun _ => .other h) fun _ => ?_
      have hgone := h.leave source (s.pendingItems.get source) (s.isKnown source) generation
      dsimp only
      rw [hcounted]
      rcases s.countedItems.get source with _ | counted
      · exact hgone
      · have hto : (if s.withOther.countedItems.contains target then none
            else s.withOther.labelForPath destination) =
              if s.countedItems.contains target then none else s.labelForPath destination := rfl
        dsimp only
        rw [hto]
        rcases hlabel : (if s.countedItems.contains target then none else s.labelForPath destination)
          with _ | label
        · exact hgone.uncountMoved source counted none s
        · have hne := h.ne_of_labelForPath hc (Option.ite_none_left_eq_some.1 hlabel).2
          exact (hgone.uncountMoved source counted (some label) s).transfer hne source target counted s
            generation

/-! ## The end of a scan -/

/-- An arrival of another library is counted at the end of the scan. -/
theorem Beside.countRuntimeItem (h : Beside s t) {entry : ItemKey × Text} (hne : entry.2 ≠ otherLabel) :
    Beside (s.countRuntimeItem entry) (t.countRuntimeItem entry) := by
  have hcontains := h.contains hne
  unfold Inventory.countRuntimeItem
  rw [hcontains]
  refine beside_ite (fun _ => h) fun _ => ?_
  rcases h with _ | h
  · exact .same
  · have hvisited := (Beside.other h).frame (fun s =>
      { s with scanUnvisitedItems := s.scanUnvisitedItems.modify entry.2 (·.erase entry.1) })
        (fun _ _ => rfl) fun _ => id
    have hcount : ∀ f, Beside _ _ := fun f : MutableLibrary → MutableLibrary =>
      (hvisited.modify (f := f) entry.2 fun heq => absurd heq hne).frame
        (fun s => { s with countedItems := s.countedItems.insert entry.1 entry.2 }) (fun _ _ => rfl)
        fun _ => id
    have hunseen := ((Beside.other h).modify (f := fun l =>
      { l with total := l.total + 1, scanned := l.scanned + 1 }) entry.2 fun heq => absurd heq hne).frame
        (fun s => { s with countedItems := s.countedItems.insert entry.1 entry.2 }) (fun _ _ => rfl)
        fun _ => id
    exact beside_ite (fun _ => hvisited) fun _ => beside_ite (fun _ => hcount _) fun _ => hunseen

/-- What the scan has not visited is dropped. -/
theorem Beside.dropUnvisited (h : Beside s t) (entry : Text × Finset ItemKey) :
    Beside (s.dropUnvisited entry) (t.dropUnvisited entry) := by
  refine h.modify entry.1 fun _ => ?_
  simp [MutableLibrary.new]

/-- The arrivals are counted on both sides. -/
theorem Bare.reconcileRuntimeAdditions (h : Bare s) (dropsUnvisited : Bool) :
    Beside (s.reconcileRuntimeAdditions dropsUnvisited)
      (s.withOther.reconcileRuntimeAdditions dropsUnvisited) := by
  have hcounted : Beside (s.runtimeItemsDuringScan.entries.foldl countRuntimeItem s)
      (s.runtimeItemsDuringScan.entries.foldl countRuntimeItem s.withOther) := by
    refine (Beside.other h).foldl _ fun s' t' entry hentry hbeside => hbeside.countRuntimeItem ?_
    rintro heq
    exact h.runtime entry.1 (OrderedDict.get_eq_some.2 (heq ▸ hentry))
  have hdropped : ∀ s' t' : Inventory, Beside s' t' →
      Beside (if dropsUnvisited then s'.scanUnvisitedItems.entries.foldl Inventory.dropUnvisited s' else s')
        (if dropsUnvisited then t'.scanUnvisitedItems.entries.foldl Inventory.dropUnvisited t' else t') := by
    intro s' t' h
    rw [h.scanUnvisitedItems]
    exact beside_ite (fun _ => h.foldl _ fun _ _ entry _ h => h.dropUnvisited entry) fun _ => h
  exact (hdropped _ _ hcounted).frame (fun s =>
    { s with
      runtimeItemsDuringScan := .empty
      postCutoffRuntimeItems := ∅
      postCutoffRemovedItems := ∅
      scanUnvisitedItems := .empty
      scanSeenItems := ∅
      unboundPendingPaths := .empty }) (fun _ _ => rfl) fun _ => nofun

/-- The scan ends on both sides. -/
theorem Bare.conclude (h : Bare s) (successful : Bool) :
    Beside (s.conclude successful) (s.withOther.conclude successful) := by
  have hcancelled : Bare s.cancelWatchdog := ⟨h.absent, h.runtime⟩
  exact (hcancelled.reconcileRuntimeAdditions (successful && !s.scanCancelled)).frame (fun s' =>
    { s' with
      scanComplete := successful && !s.scanCancelled
      scanFinished := true
      scanReady := true }) (fun _ _ => rfl) fun _ => id

/-- `finish_scan` ends the scan or waits, on both sides. -/
theorem Bare.finishScan (h : Bare s) (successful : Bool) (generation : Option ℤ) :
    Beside (s.finishScan successful generation).1 (s.withOther.finishScan successful generation).1 := by
  have hclosed : Bare { s with scanIngressOpen := false } := ⟨h.absent, h.runtime⟩
  exact beside_fst_ite (fun _ => .other h) fun _ =>
    beside_fst_ite (fun _ => .other hclosed) fun _ => hclosed.conclude successful

/-- Behind the wait both end it. -/
theorem Bare.resumeFinish (h : Bare s) (generation : ℤ) :
    Beside (s.resumeFinish generation) (s.withOther.resumeFinish generation) := by
  have hfailed : Bare { s with scanErrors := s.scanErrors + 1 } := ⟨h.absent, h.runtime⟩
  exact beside_ite (fun _ => h.conclude true) fun _ => hfailed.conclude false

/-- The watchdog ends both. -/
theorem Bare.expireScan (h : Bare s) (generation : Option ℤ) :
    Beside (s.expireScan generation) (s.withOther.expireScan generation) := by
  have hexpired : Bare { s.cancelWatchdog with scanCancelled := true, scanIngressOpen := false } :=
    ⟨h.absent, h.runtime⟩
  exact beside_ite (fun _ => .other h) fun _ => (hexpired.reconcileRuntimeAdditions false).frame (fun s' =>
    { s' with
      scanComplete := false
      scanFinished := true
      scanErrors := s.scanErrors + 1
      scanReady := true }) (fun _ _ => rfl) fun _ => id

/-- An item that a last listing does not have is dropped. -/
theorem Beside.dropItem (h : Beside s t) (entry : ItemKey × PendingItem) :
    Beside (s.dropItem entry) (t.dropItem entry) :=
  (h.forget entry.1).frame (fun s => { s with pendingItems := s.pendingItems.erase entry.1 })
    (fun _ _ => rfl) fun _ => id

/-- An arrival is settled by a last listing. -/
theorem Beside.settleRuntimeItem (h : Beside s t) (label : Text) (keys : List ItemKey)
    (entry : ItemKey × Text) :
    Beside (s.settleRuntimeItem label keys entry) (t.settleRuntimeItem label keys entry) := by
  rcases h with _ | h
  · exact .same
  · exact beside_ite (fun _ => (Beside.other h).frame (fun s =>
      { s with
        runtimeItemsDuringScan := s.runtimeItemsDuringScan.erase entry.1
        postCutoffRuntimeItems := s.postCutoffRuntimeItems.erase entry.1 }) (fun _ _ => rfl)
        fun _ => get_erase_imp) fun _ => .other h

/-- All items that are not listed are dropped. -/
theorem Beside.dropPending (h : Beside s t) (label : Text) (keys : List ItemKey) :
    Beside (s.dropPending label keys) (t.dropPending label keys) := by
  rcases h with _ | h
  · exact .same
  · exact (Beside.other h).foldl _ fun _ _ entry _ h => h.dropItem entry

/-- All arrivals are settled. -/
theorem Beside.settleRuntimeItems (h : Beside s t) (label : Text) (keys : List ItemKey) :
    Beside (s.settleRuntimeItems label keys) (t.settleRuntimeItems label keys) := by
  rcases h with _ | h
  · exact .same
  · exact (Beside.other h).foldl _ fun _ _ entry _ h => h.settleRuntimeItem label keys entry

/-- Another library is counted again. -/
theorem Beside.recountLibrary (h : Beside s t) (hne : label ≠ otherLabel) (keys : List ItemKey) :
    Beside (s.recountLibrary label keys) (t.recountLibrary label keys) := by
  rcases h with _ | h
  · exact .same
  · exact ((Beside.other h).modify label fun heq => absurd heq hne).frame (fun s =>
      { s with
        scanUnvisitedItems := (s.scanUnvisitedItems.setDefault label ∅).modify label fun _ => ∅
        scanSeenItems := s.scanSeenItems ∪ keys.toFinset }) (fun _ _ => rfl) fun _ => id

/-- The last listing of another library is taken in. -/
theorem Bare.reconcileFinalLibrary (h : Bare s) (config : InventoryConfig) (hne : label ≠ otherLabel)
    (paths : List (Option Text)) (generation : ℤ) :
    Beside (s.reconcileFinalLibrary config label paths generation)
      (s.withOther.reconcileFinalLibrary config label paths generation) := by
  have hcontains := (Beside.other h).contains hne
  unfold Inventory.reconcileFinalLibrary
  rw [hcontains]
  refine beside_ite (fun _ => .other h) fun _ => ?_
  have hcounted := (Beside.other h).frame (fun s' => s'.recountItems label (s.finalKeys config paths))
    (fun _ _ => rfl) fun _ => id
  exact ((hcounted.dropPending label _).settleRuntimeItems label _).recountLibrary hne _

end Inventory

/-! ## Calls and steps -/

/-- The name of the library that a call is given. -/
def InventoryCall.label : InventoryCall → Option Text
  | .setLibraryTotal label _ _ => some label
  | .recordCountedItem label _ _ => some label
  | .recordScanned label _ _ => some label
  | .recordScannedItem label _ _ => some label
  | .reconcileFinalLibrary label _ _ => some label
  | _ => none

/-- What is published, without an empty library of the other items. -/
def InventorySnapshot.withoutEmptyOther (snapshot : InventorySnapshot) : InventorySnapshot :=
  { snapshot with libraries := snapshot.libraries.filter (· ≠ ⟨otherLabel, 0, 0, 0⟩) }

namespace Inventory

/-- The layout of a new scan makes both the same. -/
theorem Bare.layOut (h : Bare s) (layout : ScanLayout) :
    Beside (s.layOut layout) (s.withOther.layOut layout) :=
  beside_ite (fun _ => .other h) fun _ => .same

/-- Every call that does not name the missing library keeps the two beside each other. -/
theorem Bare.perform (h : Bare s) (hc : Counted s) {call : InventoryCall}
    (hlabel : call.label ≠ some otherLabel) :
    Beside (call.perform config s) (call.perform config s.withOther) := by
  have hne : ∀ label, call.label = some label → label ≠ otherLabel := fun label heq hsame =>
    hlabel (hsame ▸ heq)
  cases call with
  | stop => exact h.stop
  | armScan => exact .same
  | beginScan => exact .other h
  | setLibraryTotal label total generation => exact h.setLibraryTotal (hne label rfl) total generation
  | recordCountedItem label path generation =>
    exact h.recordCountedItem config (hne label rfl) path generation
  | recordScanned label count generation => exact h.recordScanned (hne label rfl) count generation
  | recordScannedItem label path generation =>
    exact h.recordScannedItem config (hne label rfl) path generation
  | recordScanError generation => exact h.recordScanError generation
  | markItemQueued path source generation => exact h.markItemQueued hc config path source generation
  | markItemObserved path generation => exact h.markItemObserved hc config path generation
  | markItemCompleted path generation => exact h.markItemCompleted config path generation
  | markItemRemoved path generation => exact h.markItemRemoved config path generation
  | markItemMoved source destination generation =>
    exact h.markItemMoved hc config source destination generation
  | cancelItemQueue path generation => exact h.cancelItemQueue hc config path generation
  | finishScan successful generation => exact h.finishScan successful generation
  | expireScan generation => exact h.expireScan generation
  | waitUntilScanned => exact .other h
  | acquireScanEvent => exact h.acquireScanEvent
  | releaseScanEvent generation => exact h.releaseScanEvent generation
  | closeScanEventCutoff generation => exact h.closeScanEventCutoff generation
  | waitForScanEvents => exact .other h
  | reconcileFinalLibrary label paths generation =>
    exact h.reconcileFinalLibrary config (hne label rfl) paths generation

/-- The thread of the call stands at the same point. -/
theorem point_withOther (call : InventoryCall) (s : Inventory) : call.point s.withOther = call.point s := by
  have hfinish : ∀ successful generation,
      (s.withOther.finishScan successful generation).2 = (s.finishScan successful generation).2 := by
    intro successful generation
    unfold Inventory.finishScan
    rw [apply_ite Prod.snd, apply_ite Prod.snd, apply_ite Prod.snd, apply_ite Prod.snd]
    rfl
  cases call with
  | finishScan successful generation =>
    dsimp only [InventoryCall.point]
    rw [hfinish]
  | _ => rfl

/-- It holds the same file events. -/
theorem events_withOther (call : InventoryCall) (s : Inventory) (events : List ℤ) :
    call.events s.withOther events = call.events s events := by
  have hacquire : s.withOther.acquireScanEvent.2 = s.acquireScanEvent.2 := by
    unfold Inventory.acquireScanEvent
    rw [apply_ite Prod.snd, apply_ite Prod.snd]
    rfl
  cases call with
  | acquireScanEvent =>
    dsimp only [InventoryCall.events]
    rw [hacquire]
  | _ => rfl

/-- A thread goes on in the same way from both, unless it names the library that is not there. -/
theorem Beside.step (h : Beside s t) (hc : Counted s) {ch : InventoryChoice} {l : InventoryThread}
    (hlabel : l.point = .free → ch.call.label = some otherLabel → s.libraries.contains otherLabel = true) :
    Option.Rel (fun p q => Beside p.1 q.1 ∧ p.2 = q.2) (inventoryStep config ch s l)
      (inventoryStep config ch t l) := by
  rcases h with _ | h
  · rcases inventoryStep config ch s l with _ | p
    · exact .none
    · exact .some ⟨.same, rfl⟩
  · unfold inventoryStep
    split
    · next hpoint =>
      rw [point_withOther, events_withOther]
      split
      · refine .some ⟨h.perform hc fun heq => ?_, rfl⟩
        exact h.ne_other (hlabel hpoint heq) rfl
      · exact .none
    · exact .some ⟨.other h, rfl⟩
    · exact .some ⟨.same, rfl⟩
    · exact .some ⟨h.layOut _, rfl⟩
    · exact .some ⟨h.resumeFinish _, rfl⟩
    · exact .some ⟨.other h, rfl⟩
    · have hready : s.withOther.scanReady = s.scanReady := rfl
      rw [hready]
      split
      · exact .some ⟨.other h, rfl⟩
      · split
        · exact .some ⟨.other h, rfl⟩
        · exact .none
    · exact .some ⟨h.expireScan _, rfl⟩

/-- The same is published, but for an empty library of the other items. -/
theorem Beside.snapshot (h : Beside s t) :
    t.snapshot.withoutEmptyOther = s.snapshot.withoutEmptyOther := by
  rcases h with _ | h
  · rfl
  · have hlibraries : s.withOther.libraries.values = s.libraries.values ++ [.new otherLabel] := by
      rw [OrderedDict.values, withOther, OrderedDict.entries_setDefault_of_none h.absent, List.map_append]
      rfl
    have hsnapshots : s.withOther.librarySnapshots = s.librarySnapshots ++ [⟨otherLabel, 0, 0, 0⟩] := by
      rw [librarySnapshots, hlibraries, List.map_append]
      rfl
    -- An empty library adds nothing to the counts, either.
    have hpercent : percentOf s.scanComplete s.withOther.librarySnapshots =
        percentOf s.scanComplete s.librarySnapshots := by
      simp [percentOf, hsnapshots]
    unfold InventorySnapshot.withoutEmptyOther Inventory.snapshot
    dsimp only
    rw [hsnapshots, List.filter_append, ← hsnapshots, ← hpercent]
    simp [withOther]

end Inventory

open Interleaving

variable {config : InventoryConfig} {c : Config Inventory InventoryThread} {t : Inventory}
  {steps : List (ℕ × InventoryChoice)}

/-- Whenever a call of these steps names the library of the other items, it is there. -/
structure NamesFound (config : InventoryConfig) (c : Config Inventory InventoryThread)
    (steps : List (ℕ × InventoryChoice)) : Prop where
  found : ∀ done i ch rest, steps = done ++ (i, ch) :: rest →
    ∀ c' l, exec (inventoryStep config) c done = some c' → c'.locals[i]? = some l → l.point = .free →
      ch.call.label = some otherLabel → c'.shared.libraries.contains otherLabel = true

namespace Inventory

/-- The threads go on in the same way from both. -/
theorem Beside.exec (h : Beside c.shared t) (hc : Counted c.shared) (hfound : NamesFound config c steps) :
    Option.Rel (fun c d => Beside c.shared d.shared ∧ c.locals = d.locals)
      (exec (inventoryStep config) c steps) (exec (inventoryStep config) ⟨t, c.locals⟩ steps) := by
  induction steps generalizing c t with
  | nil => exact .some ⟨h, rfl⟩
  | cons move rest ih =>
    obtain ⟨i, ch⟩ := move
    rw [Interleaving.exec, Interleaving.exec]
    dsimp only
    rcases hl : c.locals[i]? with _ | l
    · exact .none
    · have hstep : Option.Rel (fun p q => Beside p.1 q.1 ∧ p.2 = q.2) (inventoryStep config ch c.shared l)
          (inventoryStep config ch t l) :=
        h.step hc fun hpoint hlabel => hfound.found [] i ch rest rfl c l rfl hl hpoint hlabel
      dsimp only
      generalize hs : inventoryStep config ch c.shared l = o, inventoryStep config ch t l = o' at hstep ⊢
      rcases hstep with @⟨⟨s', l'⟩, ⟨t', l''⟩, hbeside, rfl⟩ | _
      · refine ih (c := ⟨s', c.locals.set i l'⟩) hbeside (hc.step hs) ⟨?_⟩
        rintro done j ch' rest' rfl c' l₁ hexec
        refine hfound.found ((i, ch) :: done) j ch' rest' rfl c' l₁ ?_
        rw [Interleaving.exec, hl]
        dsimp only
        rw [hs]
        exact hexec
      · exact .none

end Inventory

end Subgen

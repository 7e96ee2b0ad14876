import Subgen.Journal.Store
import Subgen.Parallel.Bookkeeping

/-!
# The spool of the coordinator

`PendingChunkStore`: staged chunks on disk, each in a temporary file of its own, under opaque handles. The
coordinator stores, reads and discards there, and the other callbacks know nothing of it.

The store has a bound on its entries, and one on the bytes of each of them. The first is twice the number of
the workers, which is as many spooled chunks as a coordinator keeps, so that no call is refused for it.

* `Mirrored`: the store holds the handles of the spooled chunks and no others;
* `mirrored_perform`: what one operation of the coordinator does to both;
* `mirrored_run`: it is so in every state that an open coordinator reaches, so that the store never refuses
  what it is asked for;
* `bookkeeping_bounded`: in any arithmetic of the times, if every range that is claimed fits (`AllFit`).
-/

namespace Subgen

open Procedure Storage

/-- JSON, and the staged chunk that a decoded mapping stands for. -/
structure ChunkCodec extends Codec where
  restore : Value → Except Exc StagedChunk

/-- `PendingChunkStore`. A handle is an object; `handles` of them were made. What `TemporaryFile` will do is
    in `temporaries`: raise, or make a file with faults of its own. The errors of a call that was refused are
    kept in `refusals`. -/
structure PendingStore where
  maximumEntries : ℕ
  maximumRecordBytes : ℕ
  records : AList fun _ : ℕ => Storage Exc
  handles : ℕ
  temporaries : List (Except Exc (List (Option (Fault Exc))))
  closed : Bool
  refusals : List Exc

namespace PendingStore

/-- `__init__`. -/
def new (maximumEntries maximumRecordBytes : ℕ) (temporaries : List (Except Exc (List (Option (Fault Exc))))) :
    Except Exc PendingStore :=
  if ¬ (1 ≤ maximumEntries ∧ maximumEntries ≤ 64) then
    .error (.valueError "Pending chunk count must be between 1 and 64")
  else if ¬ (1 ≤ maximumRecordBytes ∧ maximumRecordBytes ≤ 8 * 1024 ^ 2) then
    .error (.valueError "Pending chunk record limit must be at most 8 MiB")
  else .ok ⟨maximumEntries, maximumRecordBytes, ∅, 0, temporaries, false, []⟩

/-- The store does not do what it is asked for. -/
def refuse {α : Type} (message : String) : EStateM Exc PendingStore α := do
  modify fun p => { p with refusals := .segmentJournalError message :: p.refusals }
  throw (.segmentJournalError message)

/-- The error of a chunk that does not fit. -/
def allowanceExceeded : Exc := .segmentJournalError "Pending chunk exceeds its staging allowance"

/-- The pieces of the encoded chunk, up to the allowance. -/
def writeBounded (limit : ℕ) : ℕ → List (List UInt8) → EStateM Exc (Storage Exc) Unit
  | _, [] => pure ()
  | total, data :: pieces =>
    if limit < total + data.length then throw allowanceExceeded
    else do
      write data
      writeBounded limit (total + data.length) pieces

variable (codec : ChunkCodec)

/-- What is done with the new file; one that is not finished is closed. -/
def writeChunk (limit : ℕ) (staged : StagedChunk) : EStateM Exc (Storage Exc) Unit :=
  tryCatch (do
      let encoded := codec.iterencode (.dict [("language", .ofOption .str staged.language),
        ("segments", .list (staged.segments.map fun segment => .dict segment.payload))])
      writeBounded limit 0 encoded.1
      encoded.2.elim (pure ()) throw
      settle
      seek 0)
    fun e => do
      settle
      throw e

/-- `tempfile.TemporaryFile`. -/
def temporaryFile : EStateM Exc PendingStore (Storage Exc) := do
  let p ← get
  match p.temporaries with
  | [] => pure ⟨[], 0, []⟩
  | .ok faults :: rest =>
    set { p with temporaries := rest }
    pure ⟨[], 0, faults⟩
  | .error e :: rest =>
    set { p with temporaries := rest }
    throw e

/-- `store`. -/
def store (staged : StagedChunk) : EStateM Exc PendingStore ℕ := do
  let p ← get
  if p.closed then refuse "Pending chunk store is closed"
  else if p.maximumEntries ≤ p.records.entries.length then refuse "Pending chunk store is full"
  else
    let stream ← temporaryFile
    match writeChunk codec p.maximumRecordBytes staged stream with
    | .error e _ => throw e
    | .ok _ stream =>
      modify fun p => { p with records := p.records.insert p.handles stream, handles := p.handles + 1 }
      pure p.handles

/-- The payload of a record. -/
def readChunk (limit : ℕ) : EStateM Exc (Storage Exc) StagedChunk := do
  seek 0
  let data ← Storage.read (limit + 1)
  if limit < data.length then throw allowanceExceeded
  else
    match codec.loads data with
    | none => throw (.valueError "JSONDecodeError")
    | some payload => ofExcept (codec.restore payload)

/-- `read`. -/
def read (handle : ℕ) : EStateM Exc PendingStore StagedChunk := do
  let p ← get
  match p.records.lookup handle with
  | none => refuse "Pending chunk handle is unavailable"
  | some stream =>
    if p.closed then refuse "Pending chunk handle is unavailable"
    else
      match readChunk codec p.maximumRecordBytes stream with
      | .ok staged stream =>
        modify fun p => { p with records := p.records.replace handle stream }
        pure staged
      | .error e stream =>
        modify fun p => { p with records := p.records.replace handle stream }
        throw e

/-- `discard`. -/
def discard (handle : ℕ) : EStateM Exc PendingStore Unit := do
  let p ← get
  match p.records.lookup handle with
  | none => refuse "Pending chunk handle is unavailable"
  | some stream =>
    modify fun p => { p with records := p.records.erase handle }
    match (settle : EStateM Exc (Storage Exc) Unit) stream with
    | .ok _ _ => pure ()
    | .error e _ => throw e

/-- The callbacks of a coordinator with the store for its spool, and another world for everything else. -/
def callbacks {V : Type} (persistChunk : PersistChunk V) : Callbacks (PendingStore × V) ℕ where
  storeResult staged := zoom Prod.fst (fun w p => (p, w.2)) (store codec staged)
  readResult handle := zoom Prod.fst (fun w p => (p, w.2)) (read codec handle)
  discardResult handle := zoom Prod.fst (fun w p => (p, w.2)) (discard handle)
  persistChunk window staged state := zoom Prod.snd (fun w v => (w.1, v)) (persistChunk window staged state)

/-! ## What the operations do -/

/-- All but the contents of the files. -/
structure SameHandles (p p' : PendingStore) : Prop where
  keys : p'.records.keys = p.records.keys
  handles : p'.handles = p.handles
  maximumEntries : p'.maximumEntries = p.maximumEntries
  closed : p'.closed = p.closed
  refusals : p'.refusals = p.refusals

theorem SameHandles.refl (p : PendingStore) : SameHandles p p := ⟨rfl, rfl, rfl, rfl, rfl⟩

variable {codec} {p : PendingStore}

theorem temporaryFile_spec :
    Ensures temporaryFile p (fun _ => SameHandles p) (fun _ => SameHandles p) := by
  rw [temporaryFile, ensures_bind, ensures_get]
  match h : p.temporaries with
  | [] => exact .refl p
  | .ok faults :: rest => exact ⟨rfl, rfl, rfl, rfl, rfl⟩
  | .error e :: rest => exact ⟨rfl, rfl, rfl, rfl, rfl⟩

/-- With room in the store, nothing is refused: a chunk is stored under a handle of its own, or something
    raises and nothing is stored. -/
theorem store_spec (staged : StagedChunk) (hopen : p.closed = false)
    (hroom : p.records.entries.length < p.maximumEntries) (hfresh : p.handles ∉ p.records) :
    Ensures (store codec staged) p
      (fun handle p' => handle = p.handles ∧ p'.records.keys = p.handles :: p.records.keys ∧
        p'.handles = p.handles + 1 ∧ p'.maximumEntries = p.maximumEntries ∧ p'.closed = p.closed ∧
        p'.refusals = p.refusals)
      (fun _ => SameHandles p) := by
  rw [store, ensures_bind, ensures_get, ensures_ite]
  refine ⟨fun h => absurd hopen (by simp [h]), fun _ => ?_⟩
  refine ensures_ite.2 ⟨fun hfull => absurd hroom hfull.not_gt, fun _ => ?_⟩
  rw [ensures_bind]
  refine temporaryFile_spec.mono (fun stream p' h => ?_) fun _ _ h => h
  cases writeChunk codec p.maximumRecordBytes staged stream with
  | error e stream => exact h
  | ok _ stream =>
    -- The handle was made by now, and is in the store afterwards.
    have hfresh' : p'.handles ∉ p'.records.keys := by
      rwa [h.keys, h.handles, ← AList.mem_keys]
    refine ⟨rfl, ?_, congrArg (· + 1) h.handles, h.maximumEntries, h.closed, h.refusals⟩
    change (p'.records.insert p'.handles stream).keys = _
    rw [AList.keys_insert, List.erase_of_not_mem hfresh', h.keys, h.handles]

theorem read_spec {handle : ℕ} (hopen : p.closed = false) (hmem : handle ∈ p.records) :
    Ensures (read codec handle) p (fun _ => SameHandles p) (fun _ => SameHandles p) := by
  obtain ⟨stream, hlookup⟩ := Option.isSome_iff_exists.1 (AList.lookup_isSome.2 hmem)
  rw [read, ensures_bind, ensures_get, hlookup]
  refine ensures_ite.2 ⟨fun h => absurd hopen (by simp [h]), fun _ => ?_⟩
  cases readChunk codec p.maximumRecordBytes stream with
  | ok staged stream' => exact ⟨AList.keys_replace _ _ _, rfl, rfl, rfl, rfl⟩
  | error e stream' => exact ⟨AList.keys_replace _ _ _, rfl, rfl, rfl, rfl⟩

/-- The handle is gone also when its file does not close. -/
theorem discard_spec {handle : ℕ} (hmem : handle ∈ p.records) :
    Ensures (discard handle) p (fun _ p' => p' = { p with records := p.records.erase handle })
      (fun _ p' => p' = { p with records := p.records.erase handle }) := by
  obtain ⟨stream, hlookup⟩ := Option.isSome_iff_exists.1 (AList.lookup_isSome.2 hmem)
  rw [discard, ensures_bind, ensures_get, hlookup, ensures_bind, ensures_modify]
  cases (settle : EStateM Exc (Storage Exc) Unit) stream with
  | ok _ _ => exact rfl
  | error e _ => exact rfl

end PendingStore

/-- A call whose check knows nothing of the store. -/
def Call.besideStore {V : Type} : Call V → Call (PendingStore × V)
  | .claim worker coreSeconds => .claim worker coreSeconds
  | .yielded assignment => .yielded assignment
  | .completed assignment result => .completed assignment result
  | .commitReady check maximumCommits =>
    .commitReady (zoom Prod.snd (fun w v => (w.1, v)) check) maximumCommits
  | .pauseDispatch paused => .pauseDispatch paused
  | .close => .close

namespace Scheduler

variable {V : Type} {codec : ChunkCodec} {persistChunk : PersistChunk V} {d v : ℚ}

/-- The store holds the handles of the spooled chunks and no others, and has refused nothing. -/
structure Mirrored (s : Scheduler (PendingStore × V) ℕ) : Prop where
  handles : (s.self.ready.entries.map fun e => e.2.2).Perm s.world.1.records.keys
  fresh : ∀ handle ∈ s.world.1.records.keys, handle < s.world.1.handles
  maximumEntries : s.world.1.maximumEntries = s.self.maximumPending
  opened : s.world.1.closed = false
  refusals : s.world.1.refusals = []

namespace Mirrored

variable {s s' : Scheduler (PendingStore × V) ℕ}

/-- Neither the spooled chunks nor their handles change. -/
theorem same (h : s.Mirrored) (hready : s'.self.ready = s.self.ready)
    (hworkers : s'.self.workers = s.self.workers)
    (hsame : s.world.1.SameHandles s'.world.1) : s'.Mirrored := by
  refine ⟨?_, ?_, ?_, hsame.closed.trans h.opened, hsame.refusals.trans h.refusals⟩
  · rw [hready, hsame.keys]
    exact h.handles
  · rw [hsame.keys, hsame.handles]
    exact h.fresh
  · rw [hsame.maximumEntries, h.maximumEntries, Coordinator.maximumPending, Coordinator.maximumPending, hworkers]

theorem handle_mem (h : s.Mirrored) {start : ℚ} {window : ChunkWindow} {handle : ℕ}
    (hready : s.self.ready.lookup start = some (window, handle)) : handle ∈ s.world.1.records := by
  have hentry := AList.mem_lookup_iff.1 hready
  exact AList.mem_keys.2 (h.handles.mem_iff.1 (List.mem_map_of_mem (f := fun e => e.2.2) hentry))

/-- An attempt in flight has its place in the store: it is one of those that are pending. -/
theorem room (h : s.Mirrored) (hbounded : s.self.Bounded) {a : ChunkAssignment}
    (ha : s.self.inflight.lookup a.worker = some a) :
    s.world.1.records.entries.length < s.world.1.maximumEntries := by
  have hlength := h.handles.length_eq
  rw [List.length_map, AList.keys, List.keys, List.length_map] at hlength
  have hinflight := Coordinator.length_of_lookup ha
  have hpending := hbounded.pending_le
  rw [Coordinator.pendingCount] at hpending
  have hmaximum := h.maximumEntries
  omega

end Mirrored

theorem mirrored_of_new {workers : List String} {c : Coordinator ℕ} {p : PendingStore} {bytes : ℕ}
    {temporaries : List (Except Exc (List (Option (Fault Exc))))}
    (hnew : Coordinator.new d workers v = .ok c)
    (hstore : PendingStore.new (2 * workers.length) bytes temporaries = .ok p) (world : V) :
    Mirrored ⟨c, p, world⟩ := by
  obtain ⟨_, _, _, rfl⟩ := Coordinator.new_eq_ok_iff.1 hnew
  rw [PendingStore.new] at hstore
  split_ifs at hstore
  obtain rfl := Except.ok.inj hstore
  exact ⟨.refl _, fun _ hmem => absurd hmem List.not_mem_nil, rfl, rfl, rfl⟩

/-- The checks of a commit and its callback do not touch the store. -/
theorem commitChunk_store (state : AssemblyState) (window : ChunkWindow) (staged : StagedChunk)
    (w : PendingStore × V) :
    Ensures (commitChunk state window staged (PendingStore.callbacks codec persistChunk).persistChunk) w
      (fun _ w' => w'.1 = w.1) (fun _ w' => w'.1 = w.1) := by
  rw [commitChunk, ensures_bind, ensures_ofExcept]
  refine ⟨fun next _ => ?_, fun _ _ => rfl⟩
  rw [ensures_bind, PendingStore.callbacks, ensures_zoom]
  exact ensures_of_forall (fun _ _ => rfl) fun _ _ => rfl

/-- Once a chunk is committed its handle is in neither; until then it is in both. -/
theorem mirrored_commitFront {s : Scheduler (PendingStore × V) ℕ} (h : s.Mirrored) {window : ChunkWindow}
    {handle : ℕ} (hready : s.self.ready.lookup s.self.state.cursor = some (window, handle)) :
    Ensures (commitFront (PendingStore.callbacks codec persistChunk) window handle) s (fun _ => Mirrored)
      (fun _ => Mirrored) := by
  rw [commitFront, ensures_bind, ensures_onWorld, PendingStore.callbacks, ensures_zoom]
  refine (PendingStore.read_spec h.opened (h.handle_mem hready)).mono ?_ fun e p hsame => h.same rfl rfl hsame
  intro staged p hsame
  have hread : Mirrored ⟨s.self, p, s.world.2⟩ := h.same rfl rfl hsame
  rw [ensures_bind, ensures_onSelf, ensures_get, ensures_bind, ensures_onWorld]
  refine (commitChunk_store _ _ _ _).mono ?_ ?_
  · rintro next ⟨p', w⟩ rfl
    have hmem : handle ∈ p'.records := hread.handle_mem hready
    rw [ensures_bind, ensures_onSelf, ensures_modify, ensures_bind, ensures_onWorld, ensures_zoom]
    have hperm : ((s.self.ready.erase s.self.state.cursor).entries.map fun e => e.2.2).Perm
        (p'.records.erase handle).keys := by
      have hhandles := ((perm_erase_of_lookup hready).map fun e => e.2.2).symm.trans hread.handles
      rw [List.map_cons, List.cons_perm_iff_perm_erase] at hhandles
      exact hhandles.2.trans (by rw [AList.keys_erase])
    have hmirrored : Mirrored ⟨s.self.advance next, { p' with records := p'.records.erase handle }, w⟩ := by
      refine ⟨hperm, fun other hother => hread.fresh other ?_, hread.maximumEntries, hread.opened,
        hread.refusals⟩
      exact AList.mem_keys.1 (AList.mem_erase.1 (AList.mem_keys.2 hother)).2
    refine (PendingStore.discard_spec hmem).mono ?_ ?_
    · rintro _ _ rfl
      exact hmirrored
    · rintro _ _ rfl
      exact hmirrored
  · rintro e ⟨p', w⟩ rfl
    exact h.same rfl rfl hsame

theorem mirrored_commitLoop (check : EStateM Exc V Bool) (limit : Option ℕ) (rounds : ℕ)
    (committed : List ChunkWindow) {s : Scheduler (PendingStore × V) ℕ} (h : s.Mirrored) :
    Ensures (commitLoop (PendingStore.callbacks codec persistChunk)
      (zoom Prod.snd (fun w v => (w.1, v)) check) limit rounds committed) s (fun _ => Mirrored)
      (fun _ => Mirrored) := by
  induction rounds generalizing s committed with
  | zero => exact h
  | succ rounds ih =>
    rw [commitLoop, ensures_bind, ensures_onSelf, ensures_get]
    cases hready : s.self.ready.lookup s.self.state.cursor with
    | none => exact h
    | some entry =>
      obtain ⟨window, handle⟩ := entry
      refine ensures_ite.2 ⟨fun _ => h, fun _ => ?_⟩
      rw [ensures_bind, ensures_onWorld, ensures_zoom]
      have hchecked : ∀ v, Mirrored ⟨s.self, s.world.1, v⟩ := fun v => h.same rfl rfl (.refl _)
      refine ensures_of_forall (fun healthy v => ?_) fun e v => hchecked v
      refine ensures_ite.2 ⟨fun _ => ?_, fun _ => hchecked v⟩
      rw [ensures_bind]
      exact (mirrored_commitFront (hchecked v) hready).mono (fun w s' h' => ih _ h') fun _ _ h' => h'

section

variable [Rounding]

/-- A completed attempt has a new handle in both; one that does not get into the store is still in flight. -/
theorem mirrored_completed {s : Scheduler (PendingStore × V) ℕ} (htimeline : s.self.Timeline d v)
    (hbounded : s.self.Bounded) (h : s.Mirrored) (assignment : Option ChunkAssignment) (result : Value) :
    Ensures (completed (PendingStore.callbacks codec persistChunk) assignment result) s (fun _ => Mirrored)
      (fun _ => Mirrored) := by
  rw [completed, ensures_bind, ensures_onSelf]
  refine (Coordinator.requireAttempt_spec assignment).mono ?_ ?_
  · rintro a c' ⟨rfl, -, ha⟩
    rw [ensures_bind, ensures_ofExcept]
    refine ⟨fun staged hstaged => ?_, fun _ _ => h⟩
    rw [ensures_bind, ensures_onWorld, PendingStore.callbacks, ensures_zoom]
    have hfresh : s.world.1.handles ∉ s.world.1.records := fun hmem =>
      absurd (h.fresh _ (AList.mem_keys.1 hmem)) (lt_irrefl _)
    refine (PendingStore.store_spec staged h.opened (h.room hbounded ha) hfresh).mono ?_ ?_
    · rintro handle p ⟨rfl, hkeys, hhandles, hmaximum, hclosed, hrefusals⟩
      rw [ensures_onSelf, ensures_modify]
      have hentries : (s.self.ready.insert a.window.coreStart (a.window, s.world.1.handles)).entries =
          ⟨a.window.coreStart, a.window, s.world.1.handles⟩ :: s.self.ready.entries :=
        AList.entries_insert_of_notMem (htimeline.notMem_ready ha)
      refine ⟨?_, ?_, hmaximum.trans h.maximumEntries, hclosed.trans h.opened, hrefusals.trans h.refusals⟩
      · change ((s.self.ready.insert a.window.coreStart _).entries.map _).Perm p.records.keys
        rw [hentries, hkeys, List.map_cons]
        exact h.handles.cons _
      · intro handle hmem
        rw [hkeys, List.mem_cons] at hmem
        rw [hhandles]
        rcases hmem with rfl | hmem
        · exact Nat.lt_succ_self _
        · exact (h.fresh handle hmem).trans (Nat.lt_succ_self _)
    · intro e p hsame
      exact h.same rfl rfl hsame
  · rintro e c' rfl
    exact h

/-- Every call keeps the store in step, whether it returns or raises. -/
theorem mirrored_perform {s : Scheduler (PendingStore × V) ℕ} (htimeline : s.self.Timeline d v)
    (hbounded : s.self.Bounded) (h : s.Mirrored) {call : Call V} (hcall : call.besideStore ≠ .close) :
    Mirrored (after (perform (PendingStore.callbacks codec persistChunk) call.besideStore) s) := by
  rw [← ensures_iff_after (P := Mirrored)]
  cases call with
  | claim worker seconds =>
    rw [Call.besideStore, perform, ensures_bind, ensures_onSelf]
    refine (Coordinator.claim_spec worker seconds).mono ?_ ?_
    · rintro a? c' (⟨-, rfl⟩ | ⟨window, -, -, -, rfl⟩)
      · exact h
      · exact h.same rfl rfl (.refl _)
    · rintro e c' rfl
      exact h
  | yielded assignment =>
    rw [Call.besideStore, perform, ensures_onSelf, Coordinator.yielded, ensures_bind]
    refine (Coordinator.requireAttempt_spec assignment).mono ?_ ?_
    · rintro a c' ⟨rfl, -, -⟩
      exact h.same rfl rfl (.refl _)
    · rintro e c' rfl
      exact h
  | completed assignment result => exact mirrored_completed htimeline hbounded h assignment result
  | commitReady check maximumCommits =>
    rw [Call.besideStore, perform, ensures_bind, commitReady, ensures_bind, ensures_onSelf, ensures_get,
      ensures_ite]
    refine ⟨fun _ => h, fun _ => ?_⟩
    rw [ensures_bind, ensures_ofExcept]
    exact ⟨fun limit _ => mirrored_commitLoop check limit _ [] h, fun _ _ => h⟩
  | pauseDispatch paused =>
    rw [Call.besideStore, perform, ensures_onSelf]
    cases paused with
    | bool b => exact h.same rfl rfl (.refl _)
    | _ => exact h
  | close => exact absurd rfl hcall

theorem mirrored_run {s : Scheduler (PendingStore × V) ℕ} (htimeline : s.self.Timeline d v)
    (hbounded : s.self.Bounded) (h : s.Mirrored) {calls : List (Call V)}
    (hfits : AllFit (PendingStore.callbacks codec persistChunk) s (calls.map Call.besideStore))
    (hopen : (run (PendingStore.callbacks codec persistChunk) s
      (calls.map Call.besideStore)).self.closed = false) :
    Mirrored (run (PendingStore.callbacks codec persistChunk) s (calls.map Call.besideStore)) := by
  induction calls generalizing s with
  | nil => exact h
  | cons call calls ih =>
    rw [List.map_cons, run, List.foldl_cons, ← run] at hopen ⊢
    by_cases hcall : call.besideStore = .close
    · rw [closed_run _ _ (closed_perform s (.inr hcall))] at hopen
      cases hopen
    · have hsteps : Steps (PendingStore.callbacks codec persistChunk) (fun _ => True) s
          (after (perform (PendingStore.callbacks codec persistChunk) call.besideStore) s) :=
        perform_steps s hcall trivial hfits.1
      have hkept := steps_invariant (I := fun s => s.self.Timeline d v ∧ s.self.Bounded)
        (fun _ _ hstep h => ⟨timeline_step hstep h.1, bounded_step hstep h.1 h.2⟩) hsteps
        ⟨htimeline, hbounded⟩
      exact ih hkept.1 hkept.2 (mirrored_perform htimeline hbounded h hcall) hfits.2 hopen

end

/-! ## The arithmetic of the machine -/

section

-- From here on the times are those that the code computes.
attribute [local instance] Rounding.binary64

/-- Whatever calls are made, and whichever of them raise: if every claim fits the range that it takes from, then
    as long as the coordinator is open, its dictionaries and its list of ranges are bounded by the number of its
    workers. With a store of twice as many entries for its spool, the store holds exactly the handles of the
    spooled chunks, and never refuses a call. -/
theorem bookkeeping_bounded {d v : ℚ} {workers : List String} :
    (∀ {W H : Type} {c : Coordinator H} (cb : Callbacks W H) (world : W) (calls : List (Call W)),
      Coordinator.new d workers v = .ok c → AllFit cb ⟨c, world⟩ calls →
      (run cb ⟨c, world⟩ calls).self.closed = false →
      (run cb ⟨c, world⟩ calls).self.Bookkeeping workers.length) ∧
    (∀ {V : Type} {c : Coordinator ℕ} {p : PendingStore} {bytes : ℕ}
      {temporaries : List (Except Exc (List (Option (Fault Exc))))} (codec : ChunkCodec)
      (persistChunk : PersistChunk V) (world : V) (calls : List (Call V)),
      Coordinator.new d workers v = .ok c →
      PendingStore.new (2 * workers.length) bytes temporaries = .ok p →
      AllFit (PendingStore.callbacks codec persistChunk) ⟨c, p, world⟩ (calls.map Call.besideStore) →
      (run (PendingStore.callbacks codec persistChunk) ⟨c, p, world⟩
        (calls.map Call.besideStore)).self.closed = false →
      (run (PendingStore.callbacks codec persistChunk) ⟨c, p, world⟩
        (calls.map Call.besideStore)).Mirrored) :=
  ⟨fun _ world _ hnew hfits hopen => bookkeeping_run hnew world hfits hopen,
    fun _ _ world _ hnew hstore hfits hopen => mirrored_run (Coordinator.timeline_of_new hnew)
      (Coordinator.bounded_of_new hnew) (mirrored_of_new hnew hstore world) hfits hopen⟩

end

end Scheduler

/-- JSON, of nothing but a chunk without segments. -/
def silentCodec : ChunkCodec where
  iterencode _ := (["\x7b\"language\":null,\"segments\":[]\x7d".toUTF8.toList], none)
  loads _ := some (.dict [("language", .none), ("segments", .list [])])
  restore _ := .ok ⟨none, []⟩

/-- The first two files that are made cannot be written to, and cannot be made. -/
def fullSpool : PendingStore :=
  ⟨4, 1024, ∅, 0, [.ok [some ⟨.foreign "OSError" true, 0⟩], .error (.foreign "OSError" true)], false, []⟩

/-- The second worker comes back until its chunk is stored. The first one gives up, takes less of its range
    and has that committed. -/
def spooled : List (Call Unit) :=
  let second := some ⟨.claimed 1, "b", ⟨1, 30, 10, 20, 5, 25, thirty_pos, middle_intervals⟩⟩
  [.claim "a" 10, .claim "b" 10, .completed second (.dict [("segments", .list [])]),
    .completed second (.dict [("segments", .list [])]), .completed second (.dict [("segments", .list [])]),
    .commitReady (pure true) .none,
    .yielded (some ⟨.claimed 0, "a", ⟨0, 30, 0, 10, 0, 15, thirty_pos, opening_intervals⟩⟩),
    .claim "a" 4,
    .completed (some ⟨.claimed 2, "a", ⟨2, 30, 0, 4, 0, 9, thirty_pos, by norm_num⟩⟩)
      (.dict [("segments", .list [])]),
    .commitReady (pure true) (.int 1)]

section

attribute [local instance] Rounding.binary64

theorem bookkeeping_bounded_spooled :
    let s := Scheduler.run (PendingStore.callbacks silentCodec fun _ _ _ => pure ()) ⟨twoWorkers, fullSpool, ()⟩
      (spooled.map Call.besideStore)
    s.self.Bookkeeping 2 ∧ s.Mirrored ∧ s.world.1.records.keys = [0] ∧
      s.world.1.handles = 2 ∧ s.self.state.cursor = 4 ∧ s.self.retry = [(4, 10)] := by
  intro s
  have hopen : s.self.closed = false := by decide +kernel
  have hfits : Scheduler.AllFit (PendingStore.callbacks silentCodec fun _ _ _ => pure ())
      ⟨twoWorkers, fullSpool, ()⟩ (spooled.map Call.besideStore) := by decide +kernel
  have hstore : PendingStore.new (2 * 2) 1024
      [.ok [some ⟨.foreign "OSError" true, 0⟩], .error (.foreign "OSError" true)] = .ok fullSpool := by rfl
  refine ⟨Scheduler.bookkeeping_bounded.1 _ _ _ twoWorkers_new hfits hopen,
    Scheduler.bookkeeping_bounded.2 _ _ _ _ twoWorkers_new hstore hfits hopen, ?_, ?_, ?_, ?_⟩
  · decide +kernel
  · decide +kernel
  · decide +kernel
  · decide +kernel

/-- The floats `0.6` and `1.8`, and the next one after the second. -/
def threeFifths : ℚ := Binary64.nearest (3 / 5)

/-- The double nearest to 1.8. -/
def nineFifths : ℚ := Binary64.nearest (9 / 5)

/-- The next double. -/
def afterNineFifths : ℚ := nineFifths + 1 / 2 ^ 52

/-- The first of three workers gives up and takes the first `0.6` seconds of the `1.8` of its range. The third
    one takes the rest: `0.6 + (1.8 - 0.6)` is the float after `1.8`. Then the second one gives up. -/
def shrunk : List (Call (List (Option StagedChunk))) :=
  [.claim "a" nineFifths, .claim "b" 10,
    .yielded (some ⟨.claimed 0, "a", ⟨0, 30, 0, nineFifths, 0, Binary64.nearest (nineFifths + 5),
      thirty_pos, by decide +kernel⟩⟩),
    .claim "a" threeFifths, .claim "c" 10,
    .yielded (some ⟨.claimed 1, "b", ⟨1, 30, nineFifths, Binary64.nearest (nineFifths + 10), 0,
      Binary64.nearest (Binary64.nearest (nineFifths + 10) + 5), thirty_pos, by decide +kernel⟩⟩)]

/-- The state before the first of these calls. -/
def threeWorkers : Coordinator ℕ :=
  ⟨.start 30 thirty_pos, ["a", "b", "c"], 5, 0, 0, ∅, ∅, [], false, false⟩

/-- What is left of the range is inverted, and touches the range of the second worker, in which it begins. -/
theorem bookkeeping_inverted :
    Coordinator.new 30 ["a", "b", "c"] 5 = .ok threeWorkers ∧
      (Scheduler.run memorySpool ⟨threeWorkers, []⟩ shrunk).self.closed = false ∧
      (Scheduler.run memorySpool ⟨threeWorkers, []⟩ shrunk).self.retry =
        [(nineFifths, Binary64.nearest (nineFifths + 10)), (afterNineFifths, nineFifths)] ∧
      ¬ (Scheduler.run memorySpool ⟨threeWorkers, []⟩ shrunk).self.Bookkeeping 3 := by
  have hretry : (Scheduler.run memorySpool ⟨threeWorkers, []⟩ shrunk).self.retry =
      [(nineFifths, Binary64.nearest (nineFifths + 10)), (afterNineFifths, nineFifths)] := by
    decide +kernel
  refine ⟨rfl, by decide +kernel, hretry, fun h => ?_⟩
  have hlt : afterNineFifths < nineFifths := h.retry_lt (afterNineFifths, nineFifths) (by simp [hretry])
  exact absurd hlt (by decide +kernel)

end

end Subgen

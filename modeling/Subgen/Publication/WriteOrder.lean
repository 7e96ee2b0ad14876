import Subgen.Publication.Journals

/-!
# The order of the public writes

Over all runs of a journal, however they were interrupted (`writes_in_order`): a public write is announced by the
last checkpoint, and issued under the lock; `latest` is updated once at most; the writes of the two images come
behind the evidence of the probes; and the lock is removed when this run has seen everything published.

Most of a run changes nothing about that, whatever the adapter does: it is `Closed`, or `Ordinary` where it
writes. What is left are the three writes that cannot be taken back: of the image under its version, of `latest`,
and of the lock.

* `ensures_publicWrite_of`: one public write keeps what its call keeps, if it is issued;
* `Returns`: what a step knows of its result, whatever came before;
* `WritesOrdered`: the writes of a history are in order, and `GoingOn`: those of a run that goes on;
* `PublicWorld.has_of_read`: nothing that was published is taken back, if nobody else does so;
* `Rehearsed`: two runs from the beginning to the end, one of them disturbed.
-/

namespace Subgen

open Procedure Occurrences

/-! ## Steps of a run -/

namespace PublicationRun

/-- A call of the adapter with what comes of it. -/
def called (s : PublicationRun) (call : AdapterCall) (result : Except PublicationRaised call.Answer) :
    PublicationRun := { s with history := .called call result :: s.history }

/-- The checkpoint is appended, durably or not. -/
def appended (s : PublicationRun) (durable : Bool) : PublicationRun :=
  { s with history := .appended s.checkpoint durable :: s.history }

/-- The checkpoint is changed in memory. -/
def changed (s : PublicationRun) (f : PublicationCheckpoint → PublicationCheckpoint) : PublicationRun :=
  { s with checkpoint := f s.checkpoint }

end PublicationRun

namespace PublicationCheckpoint

/-- The checkpoint that announces an operation. -/
def pending (operation : Text) (c : PublicationCheckpoint) : PublicationCheckpoint :=
  { c with phase := operation ++ text "_pending", failureCode := .null }

/-- The numbers that a checkpoint gets when it is appended. -/
def numbered (sequence : ℕ) (previous : Option Text) (c : PublicationCheckpoint) : PublicationCheckpoint :=
  { c with receiptSequence := sequence, previousReceiptSha256 := previous }

end PublicationCheckpoint

/-- Keeps what the update of `latest` depends on, besides its probe. -/
def Inessential (f : PublicationCheckpoint → PublicationCheckpoint) : Prop :=
  ∀ c, (f c).latestWriteAttempted = c.latestWriteAttempted ∧
    (f c).anonymousSmokeSha256 = c.anonymousSmokeSha256

/-- A property of runs that is kept by calls that only ask. -/
def Asking (I : PublicationRun → Prop) : Prop :=
  ∀ s call result, call.isQuery = true → I s → I (s.called call result)

/-- A property that is kept by all that writes nothing. -/
structure Closed (I : PublicationRun → Prop) : Prop where
  asking : Asking I
  reading : ∀ s document result, I s → I (s.called (.readPublicState document) result)
  appended : ∀ s durable, I s → I (s.appended durable)
  changed : ∀ s f, Inessential f → I s → I (s.changed f)

/-- A call that is about to be issued: its operation has been announced, and the lock is held. -/
structure Issued (operation : Text) (s s' : PublicationRun) : Prop where
  checkpoint : ∃ sequence previous, s'.checkpoint = (s.checkpoint.pending operation).numbered sequence previous
  history : ∃ since, s'.history = since ++ .appended (s.checkpoint.pending operation) true :: s.history ∧
    (∀ e ∈ since, e.isQuery = true) ∧ (operation ∉ lockCreations →
      ∃ objectSha documentSha256, .called (.assertLock objectSha documentSha256) (.ok ()) ∈ since)

namespace Publisher

variable {P : Publisher} {intent : ReleaseIntent} {I : PublicationRun → Prop} {s : PublicationRun} {α β : Type}

/-- A call is noted with its result, whatever it is. -/
theorem ensures_ask {call : AdapterCall} {Q : call.Answer → PublicationRun → Prop}
    {E : PublicationRaised → PublicationRun → Prop} (hQ : ∀ a, Q a (s.called call (.ok a)))
    (hE : ∀ e, E e (s.called call (.error e))) : Ensures (P.ask call) s Q E := by
  rw [Ensures, ask]
  rcases P.answer s.history call with e | a
  · exact hE e
  · exact hQ a

/-- A record appends the checkpoint as it is, and then numbers it. -/
theorem ensures_record {Q : Unit → PublicationRun → Prop} {E : PublicationRaised → PublicationRun → Prop}
    (hQ : ∀ sequence previous, Q () ((s.appended true).changed (.numbered sequence previous)))
    (hE : ∀ e, E e (s.appended false)) : Ensures P.record s Q E := by
  rw [Ensures, record]
  rcases P.append s.history s.checkpoint with e | ⟨sequence, previous⟩
  · exact hE e
  · exact hQ sequence previous

/-- A check leaves the run as it is. -/
theorem preserves_lift (x : Except LoadError α) : Preserves I (lift x) := by
  rcases x with e | a
  · exact preserves_throw _
  · exact preserves_pure a

/-- So does a check that stops the run. -/
theorem preserves_stopIf (p : Prop) [Decidable p] (code : String) : Preserves I (stopIf p code) :=
  preserves_lift _

/-- So does a token that is made up. -/
theorem preserves_fresh (factory : List PublicationEvent → Except PublicationRaised Text) :
    Preserves I (fresh factory) := by
  intro s hs
  rw [Ensures, fresh]
  rcases factory s.history with e | t
  · exact hs
  · exact hs

/-! ## What only asks -/

section Asking

variable (hI : Asking I)

include hI

/-- A call that only asks. -/
theorem preserves_ask {call : AdapterCall} (hcall : call.isQuery = true) : Preserves I (P.ask call) :=
  fun s hs => ensures_ask (fun _ => hI s call _ hcall hs) fun _ => hI s call _ hcall hs

/-- The run ids are only read. -/
theorem preserves_actionsSnapshot : Preserves I P.actionsSnapshot :=
  preserves_bind (preserves_ask hI rfl) fun _ => preserves_lift _

/-- They are read once more and compared. -/
theorem preserves_assertActionsUnchanged : Preserves I P.assertActionsUnchanged :=
  preserves_bind (preserves_actionsSnapshot hI) fun _ => preserves_get_bind fun _ => preserves_stopIf _ _

/-- The lock is only checked. -/
theorem preserves_requireLock : Preserves I P.requireLock :=
  preserves_get_bind fun _ => preserves_bind (preserves_stopIf _ _) fun _ => preserves_ask hI rfl

/-- A probe is only read. -/
theorem preserves_observeProbe (receipt : RegistryProbeReceipt)
    (candidates : List (ProbeLabel × RegistryManifest)) : Preserves I (P.observeProbe receipt candidates) :=
  preserves_bind (preserves_ask hI rfl) fun _ => preserves_bind (preserves_lift _) fun _ => preserves_pure _

/-- A retained probe is read and compared. -/
theorem preserves_verifyRetainedProbe (kind : ProbeKind) : Preserves I (P.verifyRetainedProbe intent kind) := by
  have hread (reference : Text) (f : RegistryProbeObservation → Publish Unit)
      (hf : ∀ a, Preserves I (f a)) : Preserves I (P.ask (.readRegistryProbe reference) >>= f) :=
    preserves_bind (preserves_ask hI rfl) hf
  refine preserves_get_bind fun s => ?_
  split
  · exact preserves_throw _
  · refine preserves_bind (preserves_lift _) fun manifests => preserves_bind ?_ fun _ => ?_
    · exact preserves_ite (fun _ => preserves_throw _) fun _ => preserves_pure _
    · split
      · exact hread _ _ fun _ => preserves_bind (preserves_lift _) fun _ =>
          preserves_bind (preserves_stopIf _ _) fun _ => preserves_stopIf _ _
      · exact hread _ _ fun _ => preserves_bind (preserves_lift _) fun _ =>
          preserves_bind (preserves_stopIf _ _) fun _ => preserves_stopIf _ _
      · exact preserves_throw _

/-- Both retained probes are. -/
theorem preserves_verifyCompletionEvidence : Preserves I (P.verifyCompletionEvidence intent) :=
  preserves_bind (preserves_lift _) fun _ => preserves_get_bind fun _ =>
    preserves_bind (preserves_stopIf _ _) fun _ =>
    preserves_bind (preserves_verifyRetainedProbe hI .create) fun _ => preserves_verifyRetainedProbe hI .cas

end Asking

/-! ## One public write -/

/-- What was asked since `s`. -/
structure Since (s s' : PublicationRun) : Prop where
  checkpoint : s'.checkpoint = s.checkpoint
  history : ∃ since, s'.history = since ++ s.history ∧ ∀ e ∈ since, e.isQuery = true

/-- At first nothing has been asked. -/
theorem Since.refl (s : PublicationRun) : Since s s := ⟨rfl, [], rfl, by simp⟩

/-- One more question may be asked. -/
theorem asking_since (s : PublicationRun) : Asking (Since s) := by
  rintro s' call result hcall ⟨hcheckpoint, since, hhistory, hquiet⟩
  refine ⟨hcheckpoint, .called call result :: since, congrArg (_ :: ·) hhistory, ?_⟩
  exact List.forall_mem_cons.2 ⟨hcall, hquiet⟩

/-- Two such properties at once. -/
theorem Asking.and {J : PublicationRun → Prop} (hI : Asking I) (hJ : Asking J) :
    Asking (fun s => I s ∧ J s) :=
  fun s call result hcall hs => ⟨hI s call result hcall hs.1, hJ s call result hcall hs.2⟩

/-- The lock was asserted last, unless there is none yet. -/
theorem ensures_precondition (hI : Asking I) {operation : Text} (hs : I s) :
    Ensures (P.precondition operation) s
      (fun _ s' => I s' ∧ Since s s' ∧ (operation ∉ lockCreations → ∃ objectSha documentSha256 since,
        s'.history = .called (.assertLock objectSha documentSha256) (.ok ()) :: (since ++ s.history)))
      (fun _ => I) := by
  have hboth : Asking fun s' => I s' ∧ Since s s' := Asking.and hI (asking_since s)
  rw [precondition, ensures_bind]
  refine (preserves_assertActionsUnchanged hboth s ⟨hs, Since.refl s⟩).mono ?_ fun _ _ h => h.1
  rintro _ s₁ ⟨hs₁, hsince⟩
  refine ensures_ite.2 ⟨fun hfree => ⟨hs₁, hsince, fun hlocked => absurd hfree hlocked⟩, fun _ => ?_⟩
  rw [requireLock, ensures_bind, ensures_get, ensures_bind]
  refine (preserves_stopIf (I := fun s' => s' = s₁) _ _ s₁ rfl).mono ?_ ?_
  · rintro _ _ rfl
    refine ensures_ask (fun a => ?_) fun e => hI _ _ _ rfl hs₁
    obtain ⟨hsince_lock, -⟩ : Since s _ ∧ True := ⟨asking_since s _ _ (.ok a) rfl hsince, trivial⟩
    obtain ⟨-, since, hhistory, -⟩ := hsince
    exact ⟨hI _ _ _ rfl hs₁, hsince_lock, fun _ => ⟨_, _, since, congrArg (_ :: ·) hhistory⟩⟩
  · rintro _ _ rfl
    exact hs₁

/-- The announcement of an operation changes the phase only. -/
theorem inessential_pending (operation : Text) : Inessential (.pending operation) := fun _ => ⟨rfl, rfl⟩

/-- Nor do the numbers of a receipt matter. -/
theorem inessential_numbered (sequence : ℕ) (previous : Option Text) :
    Inessential (.numbered sequence previous) := fun _ => ⟨rfl, rfl⟩

section Closed

variable (hI : Closed I)

include hI

/-- The state is read. -/
theorem preserves_readState : Preserves I (P.readState intent) := by
  have hread (document : Json) : Preserves I (P.ask (.readPublicState document)) := fun s hs =>
    ensures_ask (fun _ => hI.reading s document _ hs) fun _ => hI.reading s document _ hs
  exact preserves_get_bind fun _ => preserves_bind (hread _) fun _ =>
    preserves_bind (preserves_lift _) fun _ => preserves_pure _

/-- A checkpoint is recorded. -/
theorem preserves_record : Preserves I P.record := fun s hs =>
  ensures_record (fun sequence previous => hI.changed _ _ (inessential_numbered sequence previous)
    (hI.appended s true hs)) fun _ => hI.appended s false hs

/-- The checkpoint changes in what `latest` does not depend on. -/
theorem preserves_update {f : PublicationCheckpoint → PublicationCheckpoint} (hf : Inessential f) :
    Preserves I (update f) := fun s hs => hI.changed s f hf hs

/-- It changes, and is recorded. -/
theorem preserves_update_record {f : PublicationCheckpoint → PublicationCheckpoint} (hf : Inessential f) :
    Preserves I (do update f; P.record) :=
  preserves_bind (preserves_update hI hf) fun _ => preserves_record hI

/-- A failure is recorded. -/
theorem preserves_recordFailure (phase failureCode : Text) : Preserves I (P.recordFailure phase failureCode) :=
  preserves_update_record hI fun _ => ⟨rfl, rfl⟩

/-- A public write keeps what its call keeps, if it is issued. -/
theorem ensures_publicWrite_of {operation : Text} {call : AdapterCall} (hs : I s)
    (hissue : ∀ s' result, Issued operation s s' → I s' → I (s'.called call result)) :
    Ensures (P.publicWrite operation call) s (fun _ => I) (fun _ => I) := by
  have hfailure (phase failureCode : Text) (e : PublicationRaised) :
      Preserves I (do P.recordFailure phase failureCode; throw e : Publish call.Answer) :=
    preserves_bind (preserves_recordFailure hI _ _) fun _ => preserves_throw e
  unfold publicWrite
  rw [ensures_bind, Publisher.update, ensures_modify, ensures_bind]
  have hpending := hI.changed s _ (inessential_pending operation) hs
  refine ensures_record (fun sequence previous => ?_) fun _ => hI.appended _ false hpending
  have hnumbered := hI.changed _ _ (inessential_numbered sequence previous) (hI.appended _ true hpending)
  rw [ensures_bind, ensures_tryCatch]
  refine (ensures_precondition hI.asking hnumbered).mono ?_ fun e s' hs' => ?_
  · rintro _ s₁ ⟨hs₁, ⟨hcheckpoint, since, hhistory, hquiet⟩, hlock⟩
    -- Since the receipt that announces the write there were questions only.
    have hissued : Issued operation s s₁ := by
      refine ⟨⟨sequence, previous, hcheckpoint⟩, since, hhistory, hquiet, fun hlocked => ?_⟩
      obtain ⟨objectSha, documentSha256, since', hlast⟩ := hlock hlocked
      refine ⟨objectSha, documentSha256, ?_⟩
      rcases since with _ | ⟨e, since⟩
      · have hlength := congrArg List.length (hhistory.symm.trans hlast)
        simp at hlength
        omega
      · obtain ⟨rfl, -⟩ := List.cons.inj (hhistory.symm.trans hlast)
        exact List.mem_cons_self
    have hactions : Preserves I (attempt P.assertActionsUnchanged) :=
      preserves_attempt (preserves_assertActionsUnchanged hI.asking)
    rw [ensures_bind, ensures_attempt]
    refine ensures_ask (fun a => ?_) fun e => ?_
    · refine ensures_bind_of_preserves hactions (hissue s₁ _ hissued hs₁) (fun actions s₂ hs₂ => ?_) fun _ _ h => h
      -- The Actions are looked at behind the call, but do not take it back.
      rcases actions with _ | _
      · exact hfailure _ _ _ s₂ hs₂
      · refine preserves_bind (preserves_update hI ?_)
          (fun _ => preserves_bind (preserves_record hI) fun _ => preserves_pure a) s₂ hs₂
        exact fun _ => ⟨rfl, rfl⟩
    · refine ensures_bind_of_preserves hactions (hissue s₁ _ hissued hs₁) (fun actions s₂ hs₂ => ?_) fun _ _ h => h
      rcases actions with _ | _ <;> exact hfailure _ _ _ s₂ hs₂
  · rw [ensures_bind]
    exact (preserves_recordFailure hI _ _ s' hs').mono (fun _ _ h => h) fun _ _ h => h

/-! ## What writes only checkpoints -/

/-- A receipt of a probe is recorded. -/
theorem preserves_recordProbe (kind : ProbeKind) (receipt : RegistryProbeReceipt) (phase : Text) :
    Preserves I (P.recordProbe kind receipt phase) := by
  refine preserves_update_record hI fun c => ?_
  rcases kind with _ | _ <;> exact ⟨rfl, rfl⟩

/-- A receipt is made and recorded, or was there. -/
theorem preserves_prepareProbeReceipt (kind : ProbeKind) :
    Preserves I (P.prepareProbeReceipt intent kind) := by
  refine preserves_get_bind fun s => ?_
  split
  · exact preserves_bind (preserves_fresh _) fun _ => preserves_bind (preserves_lift _) fun _ =>
      preserves_bind (preserves_recordProbe hI _ _ _) fun _ => preserves_pure _
  · exact preserves_bind (preserves_lift _) fun _ => preserves_pure _

/-- The first write of a probe is announced. -/
theorem preserves_armSeed (kind : ProbeKind) (receipt : RegistryProbeReceipt) (observed : Option ProbeLabel)
    (phase : Text) (code : String) : Preserves I (P.armSeed kind receipt observed phase code) :=
  preserves_ite
    (fun _ => preserves_bind (preserves_stopIf _ _) fun _ =>
      preserves_bind (preserves_recordProbe hI _ _ _) fun _ => preserves_pure _)
    fun _ => preserves_pure _

/-- It is recorded that the publication was found complete. -/
theorem preserves_recordRecovered : Preserves I (P.recordRecovered intent) :=
  preserves_bind (preserves_verifyCompletionEvidence hI.asking) fun _ =>
    preserves_update_record hI fun _ => ⟨rfl, rfl⟩

/-- The lock of an earlier run is looked at. -/
theorem preserves_reconcileLock (state : PublicState) : Preserves I (P.reconcileLock state) := by
  refine preserves_get_bind fun s => preserves_ite (fun _ => preserves_stopIf _ _) fun _ => ?_
  split
  · exact preserves_pure _
  · exact preserves_bind (preserves_stopIf _ _) fun _ => preserves_update_record hI fun _ => ⟨rfl, rfl⟩

/-- It is recorded that the end is not known. -/
theorem preserves_recordUnresolved : Preserves I (P.recordUnresolved intent) :=
  preserves_bind (preserves_verifyCompletionEvidence hI.asking) fun _ =>
    preserves_bind (preserves_recordFailure hI _ _) fun _ => preserves_throw _

end Closed

/-! ## Public writes that may be repeated -/

/-- A property that is kept by all but the three last writes. -/
structure Ordinary (P : Publisher) (intent : ReleaseIntent) (I : PublicationRun → Prop) : Prop
    extends Closed I where
  written : ∀ operation call, call.Operation intent operation → call.isFinal = false →
    Preserves I (P.publicWrite operation call)

section Ordinary

variable (hI : Ordinary P intent I)

include hI

/-- The manifest that has to win is written, and read back. -/
theorem preserves_winProbe {operation : Text} (h : operation ∈ probeOperations) (receipt : RegistryProbeReceipt)
    (manifest : RegistryManifest) (ifNoneMatch : Bool) (ifMatch : Option Text)
    (candidates : List (ProbeLabel × RegistryManifest)) :
    Preserves I (P.winProbe operation receipt manifest ifNoneMatch ifMatch candidates) :=
  preserves_bind (preserves_requireLock hI.asking) fun _ =>
    preserves_bind (hI.written operation _ ⟨rfl, h⟩ rfl) fun _ => preserves_bind (preserves_lift _) fun _ =>
      preserves_observeProbe hI.asking _ _

/-- The manifest that has to lose is written, and read back. -/
theorem preserves_rejectProbe {operation : Text} (h : operation ∈ probeOperations) (kind : ProbeKind)
    (phase : Text) (receipt : RegistryProbeReceipt) (manifests : List RegistryManifest)
    (winner rejected : RegistryManifest) (ifNoneMatch : Bool) (ifMatch : Option Text) : Preserves I
      (P.rejectProbe intent kind operation phase receipt manifests winner rejected ifNoneMatch ifMatch) := by
  have hread (f : RegistryProbeObservation → Publish Unit) (hf : ∀ a, Preserves I (f a)) :
      Preserves I (P.ask (.readRegistryProbe receipt.reference) >>= f) :=
    preserves_bind (preserves_ask hI.asking rfl) hf
  refine hread _ fun _ => preserves_bind (preserves_lift _) fun _ => preserves_bind (preserves_stopIf _ _) fun _ =>
    preserves_bind (preserves_stopIf _ _) fun _ => preserves_bind (preserves_requireLock hI.asking) fun _ => ?_
  refine preserves_bind (hI.written operation _ ⟨rfl, h⟩ rfl) fun _ => preserves_bind (preserves_lift _) fun _ => ?_
  exact hread _ fun _ => preserves_bind (preserves_lift _) fun _ => preserves_bind (preserves_stopIf _ _) fun _ =>
    preserves_bind (preserves_lift _) fun _ => preserves_recordProbe hI.toClosed _ _ _

/-- The probe of a tag that is created only once. -/
theorem preserves_runVersionCreateProbe : Preserves I (P.runVersionCreateProbe intent) := by
  refine preserves_bind (preserves_prepareProbeReceipt hI.toClosed _) fun prepared => ?_
  obtain ⟨receipt, manifests⟩ := prepared
  dsimp only
  split
  · refine preserves_ite (fun _ => preserves_verifyRetainedProbe hI.asking _) fun _ => ?_
    refine preserves_bind (preserves_observeProbe hI.asking _ _) fun seen => ?_
    refine preserves_bind (preserves_armSeed hI.toClosed _ _ _ _ _) fun receipt => ?_
    refine preserves_bind ?_ fun seen => preserves_bind ?_ fun receipt =>
      preserves_bind (preserves_stopIf _ _) fun _ => ?_
    · exact preserves_ite (fun _ => preserves_winProbe hI (by simp [probeOperations]) _ _ _ _ _)
        fun _ => preserves_pure _
    · exact preserves_ite
        (fun _ => preserves_bind (preserves_stopIf _ _) fun _ => preserves_bind (preserves_lift _) fun _ =>
          preserves_bind (preserves_recordProbe hI.toClosed _ _ _) fun _ => preserves_pure _)
        fun _ => preserves_pure _
    · exact preserves_rejectProbe hI (by simp [probeOperations]) _ _ _ _ _ _ _ _
  · exact preserves_throw _

/-- A probe is moved from one manifest to the next. -/
theorem preserves_swapProbe (receipt : RegistryProbeReceipt) (prior winner : RegistryManifest)
    (candidates : List (ProbeLabel × RegistryManifest)) :
    Preserves I (P.swapProbe receipt prior winner candidates) :=
  preserves_bind (preserves_ask hI.asking rfl) fun _ => preserves_bind (preserves_lift _) fun _ =>
    preserves_bind (preserves_stopIf _ _) fun _ =>
      preserves_winProbe hI (by simp [probeOperations]) _ _ _ _ _

/-- The probe of a tag that is moved only from where it was. -/
theorem preserves_runLatestCasProbe : Preserves I (P.runLatestCasProbe intent) := by
  refine preserves_bind (preserves_prepareProbeReceipt hI.toClosed _) fun prepared => ?_
  obtain ⟨receipt, manifests⟩ := prepared
  dsimp only
  split
  · refine preserves_ite (fun _ => preserves_verifyRetainedProbe hI.asking _) fun _ => ?_
    refine preserves_bind (preserves_observeProbe hI.asking _ _) fun seen => ?_
    refine preserves_bind (preserves_armSeed hI.toClosed _ _ _ _ _) fun receipt => ?_
    refine preserves_bind ?_ fun seen => preserves_bind ?_ fun receipt => preserves_bind ?_ fun armed => ?_
    · exact preserves_ite (fun _ => preserves_winProbe hI (by simp [probeOperations]) _ _ _ _ _)
        fun _ => preserves_pure _
    · refine preserves_ite (fun _ => preserves_bind (preserves_stopIf _ _) fun _ => ?_) fun _ => preserves_pure _
      exact preserves_bind (preserves_ask hI.asking rfl) fun _ => preserves_bind (preserves_lift _) fun _ =>
        preserves_bind (preserves_stopIf _ _) fun _ =>
          preserves_bind (preserves_recordProbe hI.toClosed _ _ _) fun _ => preserves_pure _
    · refine preserves_ite (fun _ => preserves_bind ?_ fun seen => ?_) fun _ => preserves_pure _
      · exact preserves_ite (fun _ => preserves_swapProbe hI _ _ _ _) fun _ => preserves_pure _
      · exact preserves_bind (preserves_stopIf _ _) fun _ => preserves_bind (preserves_lift _) fun _ =>
          preserves_bind (preserves_stopIf _ _) fun _ =>
            preserves_bind (preserves_recordProbe hI.toClosed _ _ _) fun _ => preserves_pure _
    · exact preserves_bind (preserves_stopIf _ _) fun _ => preserves_bind (preserves_stopIf _ _) fun _ =>
        preserves_rejectProbe hI (by simp [probeOperations]) _ _ _ _ _ _ _ _
  · exact preserves_throw _

/-- The object of the lock is created. -/
theorem preserves_createLockObject (document : Text) : Preserves I (P.createLockObject document) :=
  preserves_bind (hI.written _ _ rfl rfl) fun _ => preserves_bind (preserves_stopIf _ _) fun _ =>
    preserves_update_record hI.toClosed fun _ => ⟨rfl, rfl⟩

/-- The lock is taken. -/
theorem preserves_acquireLock (document : Text) : Preserves I (P.acquireLock intent document) := by
  refine preserves_get_bind fun s => preserves_ite (fun _ => preserves_pure _) fun _ => ?_
  refine preserves_bind ?_ fun _ => preserves_bind (preserves_readState hI.toClosed) fun state =>
    preserves_bind (preserves_stopIf _ _) fun _ => preserves_get_bind fun s =>
      preserves_bind (hI.written _ _ rfl rfl) fun _ => preserves_bind ?_ fun _ =>
        preserves_bind (preserves_requireLock hI.asking) fun _ => preserves_record hI.toClosed
  · exact preserves_ite (fun _ => preserves_createLockObject hI _) fun _ => preserves_pure _
  · exact preserves_update hI.toClosed fun _ => ⟨rfl, rfl⟩

/-- The branch is moved. -/
theorem preserves_publishMain : Preserves I (P.publishMain intent) := by
  refine preserves_bind (preserves_readState hI.toClosed) fun state =>
    preserves_bind (preserves_requireLock hI.asking) fun _ => preserves_bind ?_ fun state =>
      preserves_bind (preserves_stopIf _ _) fun _ => preserves_pure _
  exact preserves_ite
    (fun _ => preserves_bind (hI.written _ _ rfl rfl) fun _ => preserves_readState hI.toClosed)
    fun _ => preserves_pure _

/-- The tag is created. -/
theorem preserves_publishTag (state : PublicState) : Preserves I (P.publishTag intent state) := by
  refine preserves_bind (preserves_requireLock hI.asking) fun _ => preserves_bind ?_ fun state =>
    preserves_bind (preserves_stopIf _ _) fun _ => preserves_pure _
  refine preserves_ite (fun _ => ?_) fun _ => preserves_pure _
  exact preserves_bind (hI.written _ _ rfl rfl) fun _ => preserves_bind (preserves_stopIf _ _) fun _ =>
    preserves_bind (hI.written _ _ rfl rfl) fun _ => preserves_readState hI.toClosed

/-- The upload of a blob is begun. -/
theorem preserves_startUpload {index : ℕ} {blob : RegistryBlob} (h : intent.requiredBlobs[index]? = some blob) :
    Preserves I (P.startUpload index blob) := by
  refine preserves_get_bind fun s => ?_
  split
  · exact preserves_pure _
  · refine preserves_bind (hI.written _ _ ⟨index, h, rfl⟩ rfl) fun uploadUrl => ?_
    split
    · exact preserves_throw _
    · exact preserves_bind (preserves_update hI.toClosed fun _ => ⟨rfl, rfl⟩) fun _ =>
        preserves_bind (preserves_record hI.toClosed) fun _ => preserves_pure _

/-- A blob is uploaded, if it is not there. -/
theorem preserves_publishBlob {index : ℕ} {blob : RegistryBlob} (h : intent.requiredBlobs[index]? = some blob) :
    Preserves I (P.publishBlob index blob) := by
  have hpresent : Preserves I (P.ask (.registryBlobPresent blob)) := preserves_ask hI.asking rfl
  refine preserves_bind (preserves_requireLock hI.asking) fun _ => preserves_bind hpresent fun present =>
    preserves_ite (fun _ => preserves_pure _) fun _ => ?_
  exact preserves_bind (preserves_startUpload hI h) fun _ =>
    preserves_bind (hI.written _ _ ⟨index, h, rfl⟩ rfl) fun _ =>
      preserves_bind hpresent fun _ => preserves_stopIf _ _

/-- A manifest is written, if it is not there. -/
theorem preserves_publishManifest {index : ℕ} {manifest : RegistryManifest}
    (h : intent.requiredManifests[index]? = some manifest) : Preserves I (P.publishManifest index manifest) := by
  have hpresent : Preserves I (P.ask (.registryManifestPresent manifest)) := preserves_ask hI.asking rfl
  refine preserves_bind (preserves_requireLock hI.asking) fun _ => preserves_bind hpresent fun present =>
    preserves_ite (fun _ => preserves_pure _) fun _ => ?_
  exact preserves_bind (hI.written _ _ ⟨index, h, rfl⟩ rfl) fun _ =>
    preserves_bind hpresent fun _ => preserves_stopIf _ _

/-- The release is created. -/
theorem preserves_publishRelease : Preserves I (P.publishRelease intent) := by
  refine preserves_bind (preserves_requireLock hI.asking) fun _ =>
    preserves_bind (preserves_readState hI.toClosed) fun state => preserves_bind ?_ fun state =>
      preserves_bind (preserves_stopIf _ _) fun _ => preserves_pure _
  exact preserves_ite
    (fun _ => preserves_bind (hI.written _ _ rfl rfl) fun _ => preserves_readState hI.toClosed)
    fun _ => preserves_pure _

end Ordinary

end Publisher

/-! ## What was seen -/

/-- What is published. -/
inductive PublicPart
  | main
  | tag
  | version
  | release
  | latest

/-- A part of the publication is as it is intended. -/
def PublicState.has (intent : ReleaseIntent) (state : PublicState) : PublicPart → Bool
  | .main => state.mainCommit = intent.releaseCommit
  | .tag => state.versionTagObject = some intent.annotatedTag.objectSha
  | .version => state.versionDigest = some intent.image.ociIndex
  | .release => state.release.any (·.isExact intent)
  | .latest => state.latestDigest = some intent.image.ociIndex

/-- A state is published as a whole if all of its parts are. -/
theorem fullyPublished_iff {intent : ReleaseIntent} {state : PublicState} :
    FullyPublished intent state ↔ ∀ part, state.has intent part = true := by
  constructor
  · intro h part
    simp only [FullyPublished, isFinalState, Bool.and_eq_true] at h
    obtain ⟨⟨⟨⟨⟨hmain, htag⟩, hrelease⟩, hversion⟩, hlatest⟩, -⟩ := h
    rcases part with _ | _ | _ | _ | _
    · exact hmain
    · exact htag
    · exact hversion
    · exact hrelease
    · exact hlatest
  · intro h
    simp only [FullyPublished, isFinalState, Bool.and_eq_true]
    exact ⟨⟨⟨⟨⟨h .main, h .tag⟩, h .release⟩, h .version⟩, h .latest⟩, rfl⟩

/-- The state was read in this run. -/
def Read (state : PublicState) (history : List PublicationEvent) : Prop :=
  ∃ e ∈ thisRun history, e.reads = some state

/-- A part was seen in public in this run. -/
def Seen (intent : ReleaseIntent) (part : PublicPart) (history : List PublicationEvent) : Prop :=
  ∃ state, Read state history ∧ state.has intent part = true

/-- A part is in the state that was read last. -/
def LastSeen (intent : ReleaseIntent) (part : PublicPart) (history : List PublicationEvent) : Prop :=
  ∃ state, lastRead history = some state ∧ state.has intent part = true

section

variable {call : AdapterCall} {result : Except PublicationRaised call.Answer} {e : PublicationEvent}
  {history : List PublicationEvent}

/-- A question begins no run. -/
theorem isStart_of_isQuery (h : call.isQuery = true) : call.isStart = false := by
  cases call <;> first | rfl | cases h

/-- Nor does an operation. -/
theorem isStart_of_operation {intent : ReleaseIntent} {operation : Text} (h : call.Operation intent operation) :
    call.isStart = false := by
  cases call <;> first | rfl | cases h

/-- A question writes nothing. -/
theorem isWrite_of_isQuery (h : call.isQuery = true) : call.isWrite = false := by
  cases call <;> first | rfl | cases h

/-- A question about something else reads no state. -/
theorem reads_of_isQuery (h : e.isQuery = true) : e.reads = none := by
  rcases e with ⟨call, result⟩ | _
  · cases call <;> first | rfl | cases h
  · rfl

/-- A question appends no checkpoint. -/
theorem isAppend_of_isQuery (h : e.isQuery = true) : e.isAppend = false := by
  cases e <;> first | rfl | cases h

/-- The state that was read last is that of the last event, if this read one. -/
theorem lastRead_cons (e : PublicationEvent) : lastRead (e :: history) = e.reads.or (lastRead history) := by
  rcases e with ⟨call, result⟩ | _
  · cases call
    case readPublicState => cases result <;> rfl
    all_goals rfl
  · rfl

/-- A question about something else leaves the state that was read last. -/
theorem lastRead_cons_of_isQuery (he : e.isQuery = true) : lastRead (e :: history) = lastRead history := by
  rw [lastRead_cons, reads_of_isQuery he]
  rfl

/-- So do some of them. -/
theorem lastRead_append {since : List PublicationEvent} (h : ∀ e ∈ since, e.isQuery = true) :
    lastRead (since ++ history) = lastRead history := by
  induction since with
  | nil => rfl
  | cons e since ih =>
    obtain ⟨he, hsince⟩ := List.forall_mem_cons.1 h
    rw [List.cons_append, lastRead_cons_of_isQuery he, ih hsince]

/-- An event that begins no run belongs to this one. -/
theorem thisRun_cons (h : e.isStart = false) : thisRun (e :: history) = e :: thisRun history := by
  simp [thisRun, h]

/-- What is found behind the last write is still found after events that write nothing. -/
theorem mem_takeWhile_append {p : PublicationEvent → Bool} {since : List PublicationEvent}
    (hsince : ∀ e ∈ since, p e = true) (hmem : e ∈ history.takeWhile p) :
    e ∈ (since ++ history).takeWhile p := by
  rw [List.takeWhile_append_of_pos hsince]
  exact List.mem_append_right _ hmem

/-- The same for one event. -/
theorem mem_takeWhile_cons {p : PublicationEvent → Bool} {e' : PublicationEvent} (he' : p e' = true)
    (hmem : e ∈ history.takeWhile p) : e ∈ (e' :: history).takeWhile p := by
  rw [List.takeWhile_cons_of_pos he']
  exact List.mem_cons_of_mem _ hmem

end

/-- A property of runs that is kept by all that happens in one. -/
structure Persistent (C : PublicationRun → Prop) : Prop where
  called : ∀ s call result, call.isStart = false → C s → C (s.called call result)
  appended : ∀ s durable, C s → C (s.appended durable)
  changed : ∀ s f, Inessential f → C s → C (s.changed f)

/-- What is kept by all events is kept by the steps of the procedures. -/
theorem Persistent.closed {C : PublicationRun → Prop} (hC : Persistent C) : Closed C :=
  ⟨fun s call result hcall => hC.called s call result (isStart_of_isQuery hcall),
    fun s document result => hC.called s (.readPublicState document) result rfl, hC.appended, hC.changed⟩

/-- Two such properties at once. -/
theorem Persistent.and {C D : PublicationRun → Prop} (hC : Persistent C) (hD : Persistent D) :
    Persistent fun s => C s ∧ D s :=
  ⟨fun s call result hcall h => ⟨hC.called s call result hcall h.1, hD.called s call result hcall h.2⟩,
    fun s durable h => ⟨hC.appended s durable h.1, hD.appended s durable h.2⟩,
    fun s f hf h => ⟨hC.changed s f hf h.1, hD.changed s f hf h.2⟩⟩

/-- A state that was read in this run stays read. -/
theorem Read.cons {state : PublicState} {history : List PublicationEvent} (h : Read state history)
    {e : PublicationEvent} (he : e.isStart = false) : Read state (e :: history) := by
  obtain ⟨e', he', hreads⟩ := h
  exact ⟨e', (thisRun_cons he).symm ▸ List.mem_cons_of_mem _ he', hreads⟩

/-- The same as a property of runs. -/
theorem persistent_read (state : PublicState) : Persistent fun s => Read state s.history :=
  ⟨fun _ _ _ hcall h => h.cons hcall, fun _ _ h => h.cons rfl, fun _ _ _ h => h⟩

/-- A part that was seen in this run stays seen. -/
theorem persistent_seen (intent : ReleaseIntent) (part : PublicPart) :
    Persistent fun s => Seen intent part s.history :=
  ⟨fun _ _ _ hcall ⟨state, h, hpart⟩ => ⟨state, h.cons hcall, hpart⟩,
    fun _ _ ⟨state, h, hpart⟩ => ⟨state, h.cons rfl, hpart⟩, fun _ _ _ h => h⟩

/-- A question about something else leaves the part in the state that was read last. -/
theorem asking_lastSeen (intent : ReleaseIntent) (part : PublicPart) :
    Asking fun s => LastSeen intent part s.history := by
  rintro s call result hcall ⟨state, hlast, hpart⟩
  have hsame : lastRead (.called call result :: s.history) = lastRead s.history :=
    lastRead_cons_of_isQuery hcall
  exact ⟨state, hsame.trans hlast, hpart⟩

/-- The anonymous pull is recorded. -/
def Smoked (s : PublicationRun) : Prop := isNone s.checkpoint.anonymousSmokeSha256 = false

/-- The record of the anonymous pull stays. -/
theorem persistent_smoked : Persistent Smoked :=
  ⟨fun _ _ _ _ h => h, fun _ _ h => h, fun s _ hf h =>
    (congrArg (isNone · = false) (hf s.checkpoint).2).mpr h⟩

namespace Publisher

variable {P : Publisher} {intent : ReleaseIntent} {I : PublicationRun → Prop} {s : PublicationRun} {α β : Type}

/-! ## What a step returns -/

/-- What is known of a result. -/
def Returns (m : Publish α) (s : PublicationRun) (Q : α → PublicationRun → Prop) : Prop :=
  Ensures m s Q fun _ _ => True

/-- A value. -/
theorem returns_pure {Q : α → PublicationRun → Prop} {a : α} (h : Q a s) : Returns (pure a) s Q := h

/-- Whatever came before. -/
theorem returns_bind {m : Publish α} {f : α → Publish β} {Q : β → PublicationRun → Prop}
    (hf : ∀ a s', Returns (f a) s' Q) : Returns (m >>= f) s Q :=
  ensures_bind.2 (ensures_of_forall hf fun _ _ => trivial)

/-- One procedure after the other. -/
theorem Returns.bind {m : Publish α} {f : α → Publish β} {R : α → PublicationRun → Prop}
    {Q : β → PublicationRun → Prop} (hm : Returns m s R) (hf : ∀ a s', R a s' → Returns (f a) s' Q) :
    Returns (m >>= f) s Q :=
  ensures_bind.2 (hm.mono hf fun _ _ h => h)

/-- What is looked at of the run. -/
theorem returns_get_bind {f : PublicationRun → Publish β} {Q : β → PublicationRun → Prop}
    (hf : Returns (f s) s Q) : Returns (get >>= f) s Q := ensures_bind.2 hf

/-- A property that is kept holds of every return. -/
theorem returns_of_preserves {m : Publish α} (hm : Preserves I m) (hs : I s) : Returns m s fun _ => I :=
  (hm s hs).mono (fun _ _ h => h) fun _ _ _ => trivial

/-- Each of the two branches. -/
theorem returns_ite {p : Prop} [Decidable p] {m n : Publish α} {Q : α → PublicationRun → Prop}
    (hm : Returns m s Q) (hn : Returns n s Q) : Returns (if p then m else n) s Q :=
  ensures_ite.2 ⟨fun _ => hm, fun _ => hn⟩

/-- Behind a check that did not stop the run. -/
theorem returns_stopIf {p : Prop} [Decidable p] {code : String} {Q : Unit → PublicationRun → Prop}
    (h : ¬ p → Q () s) : Returns (stopIf p code) s Q :=
  ensures_stopIf.2 ⟨fun _ => trivial, h⟩

/-- The state is as before. -/
theorem returns_lift {x : Except LoadError α} : Returns (lift x) s fun a s' => s' = s ∧ x = .ok a := by
  rcases x with e | a
  · exact trivial
  · exact ⟨rfl, rfl⟩

/-- The state is the last that was read, and was read in this run. -/
def LastRead (state : PublicState) (s : PublicationRun) : Prop :=
  lastRead s.history = some state ∧ Read state s.history

/-- A question about something else leaves the state that was read last in this run. -/
theorem asking_lastRead (state : PublicState) : Asking (LastRead state) := by
  intro s call result hcall h
  have hsame : lastRead (.called call result :: s.history) = lastRead s.history :=
    lastRead_cons_of_isQuery hcall
  exact ⟨hsame.trans h.1, h.2.cons (isStart_of_isQuery hcall)⟩

/-- The state that is returned is the last one, read in this run. -/
theorem returns_readState : Returns (P.readState intent) s LastRead := by
  rw [readState, Returns, ensures_bind, ensures_get, ensures_bind]
  refine ensures_ask (fun state => ?_) fun _ => trivial
  have hread : LastRead state (s.called (.readPublicState s.checkpoint.lockDocumentSha256) (.ok state)) :=
    ⟨rfl, _, List.mem_cons_self, rfl⟩
  exact Returns.bind (returns_of_preserves (preserves_lift _) hread) fun _ _ h => returns_pure h

/-- The check of the lock reads no state. -/
theorem returns_requireLock {state : PublicState} (hs : LastRead state s) :
    Returns P.requireLock s fun _ => LastRead state :=
  returns_of_preserves (preserves_requireLock (asking_lastRead state)) hs

/-- The last state that was read, with a part. -/
def ReadWith (intent : ReleaseIntent) (part : PublicPart) (state : PublicState) (s : PublicationRun) : Prop :=
  LastRead state s ∧ state.has intent part = true

/-- Behind the branch the state that is returned has it. -/
theorem returns_publishMain : Returns (P.publishMain intent) s (ReadWith intent .main) := by
  refine Returns.bind returns_readState fun state s₁ hs₁ => (returns_requireLock hs₁).bind fun _ s₂ hs₂ => ?_
  refine (returns_ite (returns_bind fun _ _ => returns_readState) (returns_pure hs₂)).bind fun state s₃ hs₃ => ?_
  refine Returns.bind (returns_stopIf fun hmain => ?_) fun _ _ h => returns_pure h
  exact ⟨hs₃, decide_eq_true (not_not.1 hmain)⟩

/-- Behind the tag it has the tag. -/
theorem returns_publishTag {state : PublicState} (hs : LastRead state s) :
    Returns (P.publishTag intent state) s (ReadWith intent .tag) := by
  refine (returns_requireLock hs).bind fun _ s₁ hs₁ => ?_
  refine (returns_ite ?_ (returns_pure hs₁)).bind fun state s₂ hs₂ => ?_
  · exact returns_bind fun _ _ => returns_bind fun _ _ => returns_bind fun _ _ => returns_readState
  · refine Returns.bind (returns_stopIf fun htag => ?_) fun _ _ h => returns_pure h
    exact ⟨hs₂, decide_eq_true (not_not.1 htag)⟩

/-- The state that is compared with the version may have been read long before. -/
theorem returns_publishVersion {state : PublicState} (hs : Read state s.history) :
    Returns (P.publishVersion intent state) s fun _ s' => Seen intent .version s'.history := by
  have hread : Closed fun s => Read state s.history := (persistent_read state).closed
  refine (returns_of_preserves (preserves_requireLock hread.asking) hs).bind fun _ s₁ hs₁ => ?_
  refine (returns_ite (Q := fun state s' => Read state s'.history) ?_ (returns_pure hs₁)).bind
    fun state s₂ hs₂ => ?_
  · exact returns_bind fun _ _ => returns_bind fun _ _ => returns_bind fun _ _ =>
      returns_readState.mono (fun _ _ h => h.2) fun _ _ h => h
  · refine Returns.bind (R := fun _ s' => Seen intent .version s'.history)
      (returns_stopIf fun hversion => ⟨state, hs₂, decide_eq_true (not_not.1 hversion)⟩) fun _ s₃ hs₃ => ?_
    exact returns_of_preserves
      (preserves_verifyRetainedProbe (persistent_seen intent .version).closed.asking _) hs₃

/-- Behind the release it has the release. -/
theorem returns_publishRelease : Returns (P.publishRelease intent) s (ReadWith intent .release) := by
  refine returns_bind fun _ s₁ => Returns.bind returns_readState fun state s₂ hs₂ => ?_
  refine (returns_ite (returns_bind fun _ _ => returns_readState) (returns_pure hs₂)).bind fun state s₃ hs₃ => ?_
  refine Returns.bind (returns_stopIf fun hrelease => ?_) fun _ _ h => returns_pure h
  exact ⟨hs₃, not_not.1 hrelease⟩

/-- An end that is not known never returns. -/
theorem returns_recordUnresolved : Returns (P.recordUnresolved intent) s fun _ _ => False :=
  returns_bind fun _ _ => returns_bind fun _ _ => trivial

/-- Behind `latest` a state was read that has it. -/
theorem returns_publishLatest {state : PublicState} (hs : LastRead state s) :
    Returns (P.publishLatest intent state) s fun _ s' => ∃ state, ReadWith intent .latest state s' := by
  refine (returns_requireLock hs).bind fun _ s₁ hs₁ => returns_get_bind ?_
  have hunresolved : Returns (if s₁.checkpoint.latestWriteAttempted ∧
      state.latestDigest = intent.priorLatestDigest then P.recordUnresolved intent else pure ()) s₁
      fun _ => LastRead state :=
    returns_ite (returns_recordUnresolved.mono (fun _ _ h => h.elim) fun _ _ h => h) (returns_pure hs₁)
  refine hunresolved.bind fun _ s₂ hs₂ => ?_
  refine (returns_ite ?_ (returns_pure hs₂)).bind fun state s₃ hs₃ => returns_stopIf fun hlatest => ?_
  · exact returns_bind fun _ _ => returns_bind fun _ _ => returns_bind fun _ _ => returns_bind fun _ _ =>
      returns_bind fun _ _ => returns_bind fun _ _ => returns_bind fun _ _ => returns_readState
  · exact ⟨state, hs₃, decide_eq_true (not_not.1 hlatest)⟩

/-- Behind the anonymous pull its record is there. -/
theorem returns_smoke (proof : LocalSourceProof) :
    Returns (P.smoke intent proof) s fun _ s' => Smoked s' := by
  refine returns_bind fun _ _ => returns_bind fun _ _ => returns_bind fun _ _ => returns_bind fun _ _ =>
    returns_bind fun document s₁ => ?_
  rw [Returns, ensures_bind, Publisher.update, ensures_modify]
  exact ensures_record (fun _ _ => rfl) fun _ => trivial

/-! ## Evidence -/

/-- Behind its record the receipt is in the checkpoint. -/
theorem returns_recordProbe {kind : ProbeKind} {receipt : RegistryProbeReceipt} {phase : Text} :
    Returns (P.recordProbe kind receipt phase) s fun _ s' => s'.checkpoint.probe kind = some receipt := by
  rw [recordProbe, Returns, ensures_bind, Publisher.update, ensures_modify]
  refine ensures_record (fun _ _ => ?_) fun _ => trivial
  rcases kind with _ | _ <;> rfl

/-- The receipt that is returned is the one in the checkpoint. -/
theorem returns_prepareProbeReceipt {kind : ProbeKind} :
    Returns (P.prepareProbeReceipt intent kind) s fun r s' => s'.checkpoint.probe kind = some r.1 := by
  refine returns_get_bind ?_
  split
  · exact returns_bind fun _ _ => returns_bind fun _ _ =>
      Returns.bind returns_recordProbe fun _ _ h => returns_pure h
  · next receipt hreceipt =>
    have hkept : Preserves (fun s' : PublicationRun => s'.checkpoint.probe kind = some receipt)
        (lift (validateProbeReceipt P.interpreter P.hash intent kind receipt)) := preserves_lift _
    exact (returns_of_preserves hkept hreceipt).bind fun _ _ h => returns_pure h

/-- The registry was read under the reference of a probe, since the last public write. -/
def ReadProbe (I : Interpreter) (hash : List ℕ → Text) (intent : ReleaseIntent) (kind : ProbeKind)
    (s : PublicationRun) : Prop :=
  ∃ receipt observation, s.checkpoint.probe kind = some receipt ∧
    .called (.readRegistryProbe receipt.reference) (.ok observation) ∈ s.history.takeWhile (!·.isWrite) ∧
    Retained I hash intent kind receipt observation

/-- A question about something else leaves a probe that was read behind the last write. -/
theorem asking_readProbe {I : Interpreter} {hash : List ℕ → Text} {kind : ProbeKind} :
    Asking (ReadProbe I hash intent kind) :=
  fun _ _ _ hcall ⟨receipt, observation, hreceipt, hmem, hretained⟩ =>
    ⟨receipt, observation, hreceipt, mem_takeWhile_cons
      (by simp [PublicationEvent.isWrite, isWrite_of_isQuery hcall]) hmem, hretained⟩

/-- A retained probe was read, and is the winner that was recorded. -/
theorem returns_verifyRetainedProbe {kind : ProbeKind} :
    Returns (P.verifyRetainedProbe intent kind) s fun _ => ReadProbe P.interpreter P.hash intent kind := by
  refine returns_get_bind ?_
  split
  · exact trivial
  · next receipt hreceipt =>
    refine Returns.bind returns_lift fun manifests s₁ hs₁ => ?_
    obtain ⟨rfl, hvalid⟩ := hs₁
    have hread (winner : RegistryManifest) (hverified : receipt.verificationSha256.isSome = true)
        (hwinner : winnerOf kind manifests = some winner) :
        Returns (do
            let observation ← P.ask (.readRegistryProbe receipt.reference)
            lift (assertProbeExact observation winner)
            stopIf (observation.etag ≠ receipt.winnerEtag) "registry_probe_winner_etag_changed"
            stopIf (kind = .cas ∧ observation.etag = receipt.priorEtag) "registry_probe_etag_not_changed") s₁
          fun _ => ReadProbe P.interpreter P.hash intent kind := by
      rw [Returns, ensures_bind]
      refine ensures_ask (fun observation => ?_) fun _ => trivial
      refine Returns.bind returns_lift fun _ s₁ hs₁ => ?_
      obtain ⟨rfl, hexact⟩ := hs₁
      refine Returns.bind (R := fun _ s' => s' = s₁.called _ (.ok observation) ∧
        observation.etag = receipt.winnerEtag) (returns_stopIf fun hetag => ⟨rfl, not_not.1 hetag⟩) ?_
      rintro _ _ ⟨rfl, hetag⟩
      refine returns_stopIf fun hprior => ⟨receipt, observation, hreceipt, ?_, ?_⟩
      · exact List.mem_cons_self
      · exact ⟨manifests, winner, hvalid, hverified, hwinner, hexact, hetag, fun hcas heq => hprior ⟨hcas, heq⟩⟩
    refine Returns.bind (R := fun _ s' => s' = s₁ ∧ receipt.verificationSha256.isSome = true) ?_ ?_
    · refine ensures_ite.2 ⟨fun _ => trivial, fun hnone => ⟨rfl, ?_⟩⟩
      rwa [Option.isNone_iff_eq_none, ← ne_eq, ← Option.isSome_iff_ne_none] at hnone
    rintro _ _ ⟨rfl, hverified⟩
    split
    · exact hread _ hverified rfl
    · exact hread _ hverified rfl
    · exact trivial

/-- The evidence is read again behind the last public write. -/
theorem returns_verifyCompletionEvidence :
    Returns (P.verifyCompletionEvidence intent) s
      fun _ s' => ∀ kind, ReadProbe P.interpreter P.hash intent kind s' := by
  refine returns_bind fun _ _ => returns_get_bind (returns_bind fun _ _ => ?_)
  refine Returns.bind returns_verifyRetainedProbe fun _ s₁ hcreate => ?_
  have hkept : Preserves (ReadProbe P.interpreter P.hash intent .create) (P.verifyRetainedProbe intent .cas) :=
    preserves_verifyRetainedProbe asking_readProbe .cas
  refine ((hkept s₁ hcreate).and returns_verifyRetainedProbe).mono (fun _ s₂ h kind => ?_) fun _ _ _ => trivial
  rcases kind with _ | _
  · exact h.1
  · exact h.2

/-! ## The probes -/

/-- A probe is verified at its end. -/
theorem returns_rejectProbe {kind : ProbeKind} {operation phase : Text} {receipt : RegistryProbeReceipt}
    {manifests : List RegistryManifest} {winner rejected : RegistryManifest} {ifNoneMatch : Bool}
    {ifMatch : Option Text} :
    Returns (P.rejectProbe intent kind operation phase receipt manifests winner rejected ifNoneMatch ifMatch) s
      fun _ s' => s'.checkpoint.Verified kind := by
  refine returns_bind fun _ _ => returns_bind fun _ _ => returns_bind fun _ _ => returns_bind fun _ _ =>
    returns_bind fun _ _ => returns_bind fun _ _ => returns_bind fun _ _ => returns_bind fun _ _ =>
    returns_bind fun _ _ => returns_bind fun _ _ => returns_bind fun verification _ => ?_
  exact returns_recordProbe.mono (fun _ s' h => ⟨_, h, rfl, rfl⟩) fun _ _ h => h

/-- A probe that was verified by an earlier run. -/
theorem returns_verified {kind : ProbeKind} {receipt : RegistryProbeReceipt}
    (hs : s.checkpoint.probe kind = some receipt) (hstage : receipt.stage = text "verified") :
    Returns (P.verifyRetainedProbe intent kind) s fun _ s' => s'.checkpoint.Verified kind := by
  have hasking : Asking fun s : PublicationRun => s.checkpoint.probe kind = some receipt := fun _ _ _ _ h => h
  have hkept : Preserves _ (P.verifyRetainedProbe intent kind) := preserves_verifyRetainedProbe hasking kind
  refine ((hkept s hs).and returns_verifyRetainedProbe).mono ?_ fun _ _ _ => trivial
  rintro _ s' ⟨hprobe, receipt', -, hprobe', -, manifests, winner, -, hverified, -⟩
  obtain rfl := Option.some.inj (hprobe.symm.trans hprobe')
  exact ⟨receipt, hprobe, hstage, hverified⟩

/-- The first probe is verified. -/
theorem returns_runVersionCreateProbe :
    Returns (P.runVersionCreateProbe intent) s fun _ s' => s'.checkpoint.Verified .create := by
  refine Returns.bind returns_prepareProbeReceipt fun prepared s₁ hs₁ => ?_
  obtain ⟨receipt, manifests⟩ := prepared
  dsimp only
  split
  · refine ensures_ite.2 ⟨fun hstage => returns_verified hs₁ hstage, fun _ => ?_⟩
    exact returns_bind fun _ _ => returns_bind fun _ _ => returns_bind fun _ _ => returns_bind fun _ _ =>
      returns_bind fun _ _ => returns_rejectProbe
  · exact trivial

/-- The second probe is verified. -/
theorem returns_runLatestCasProbe :
    Returns (P.runLatestCasProbe intent) s fun _ s' => s'.checkpoint.Verified .cas := by
  refine Returns.bind returns_prepareProbeReceipt fun prepared s₁ hs₁ => ?_
  obtain ⟨receipt, manifests⟩ := prepared
  dsimp only
  split
  · refine ensures_ite.2 ⟨fun hstage => returns_verified hs₁ hstage, fun _ => ?_⟩
    exact returns_bind fun _ _ => returns_bind fun _ _ => returns_bind fun _ _ => returns_bind fun _ _ =>
      returns_bind fun _ _ => returns_bind fun _ _ => returns_bind fun _ _ => returns_rejectProbe
  · exact trivial

end Publisher

/-! ## Histories in order -/

section

variable {I : Interpreter} {hash : List ℕ → Text} {intent : ReleaseIntent} {history : List PublicationEvent}
  {call : AdapterCall} {result : Except PublicationRaised call.Answer}

/-- What is known when the lock is removed: in this run every part was seen, `latest` when the state was read
    last, and the evidence was read again. -/
structure Cleared (I : Interpreter) (hash : List ℕ → Text) (intent : ReleaseIntent)
    (before : List PublicationEvent) : Prop where
  seen : ∀ part, Seen intent part before
  latest : LastSeen intent .latest before
  reverified : Reverified I hash intent before

/-- The public writes of a history are in order, and an update of `latest` is in all that may be loaded. -/
structure WritesOrdered (I : Interpreter) (hash : List ℕ → Text) (intent : ReleaseIntent)
    (history : List PublicationEvent) : Prop where
  announced : Each (fun e => e.isWrite = true) (fun _ => Announced intent) history
  once : history.countP (·.updatesLatest) ≤ 1
  version : Each (fun e => e.createsVersion = true) (fun _ _ => Proven (·.Verified .create)) history
  latest : Each (fun e => e.updatesLatest = true)
    (fun _ _ => Proven fun c => c.Verified .cas ∧ isNone c.anonymousSmokeSha256 = false) history
  removal : Each (fun e => e.removesLock = true) (fun _ _ => Cleared I hash intent) history
  latched : ∀ earlier, earlier <:+ history → (∃ e ∈ earlier, e.updatesLatest = true) →
    ∀ r ∈ loadableCheckpoints earlier, r.any (·.latestWriteAttempted) = true

/-- Nothing has been written yet. -/
theorem writesOrdered_nil : WritesOrdered I hash intent [] where
  announced := each_nil
  once := Nat.zero_le _
  version := each_nil
  latest := each_nil
  removal := each_nil
  latched := by
    rintro earlier hearlier ⟨e, he, -⟩
    rw [List.suffix_nil.1 hearlier] at he
    exact absurd he List.not_mem_nil

/-- What is in order as a whole was in order before. -/
theorem WritesOrdered.of_suffix {earlier : List PublicationEvent} (h : WritesOrdered I hash intent history)
    (hsuffix : earlier <:+ history) : WritesOrdered I hash intent earlier where
  announced := h.announced.of_suffix hsuffix
  once := (hsuffix.sublist.countP_le).trans h.once
  version := h.version.of_suffix hsuffix
  latest := h.latest.of_suffix hsuffix
  removal := h.removal.of_suffix hsuffix
  latched := fun earlier' hearlier => h.latched earlier' (hearlier.trans hsuffix)

/-- What may be loaded of a history with one more event. -/
theorem WritesOrdered.latched_cons (h : WritesOrdered I hash intent history) {e : PublicationEvent}
    (he : (∃ e' ∈ e :: history, e'.updatesLatest = true) →
      ∀ r ∈ loadableCheckpoints (e :: history), r.any (·.latestWriteAttempted) = true) :
    ∀ earlier, earlier <:+ e :: history → (∃ e ∈ earlier, e.updatesLatest = true) →
      ∀ r ∈ loadableCheckpoints earlier, r.any (·.latestWriteAttempted) = true := by
  intro earlier hearlier
  rcases List.suffix_cons_iff.1 hearlier with rfl | hearlier
  · exact he
  · exact h.latched earlier hearlier

/-- The three last writes are writes. -/
theorem isFinal_of_not_isWrite (h : call.isWrite = false) : call.isFinal = false := by
  rcases call with _ | _ | _ | _ | _ | _ | _ | _ | _ | _ | _ | _ | _ | _ | _ | _ | _ | _ | _ | _ | _ <;>
    first | rfl | cases h

/-- Another call is none of the three. -/
theorem kinds_of_not_isFinal (h : call.isFinal = false) :
    (PublicationEvent.called call result).createsVersion = false ∧
      (PublicationEvent.called call result).updatesLatest = false ∧
      (PublicationEvent.called call result).removesLock = false := by
  rcases call with _ | _ | _ | _ | _ | _ | _ | _ | _ | _ | _ | _ | _ | _ | _ | _ | _ | _ | _ | _ | _ <;>
    first | exact ⟨rfl, rfl, rfl⟩ | cases h

/-- A question does not move `latest`. -/
theorem updatesLatest_of_isQuery {e : PublicationEvent} (h : e.isQuery = true) : e.updatesLatest = false := by
  rcases e with ⟨call, result⟩ | _
  · exact (kinds_of_not_isFinal (isFinal_of_not_isWrite (isWrite_of_isQuery h))).2.1
  · rfl

/-- Calls do not bear on the checkpoints that a recovery finds. -/
theorem loadableCheckpoints_append {since : List PublicationEvent} (h : ∀ e ∈ since, e.isAppend = false) :
    loadableCheckpoints (since ++ history) = loadableCheckpoints history := by
  induction since with
  | nil => rfl
  | cons e since ih =>
    obtain ⟨he, hsince⟩ := List.forall_mem_cons.1 h
    rcases e with ⟨call, result⟩ | _
    · exact ih hsince
    · cases he

/-- Calls do not bear on the checkpoint that was appended last. -/
theorem lastAppended_append {since : List PublicationEvent} {c : PublicationCheckpoint} {durable : Bool}
    (h : ∀ e ∈ since, e.isAppend = false) :
    lastAppended (since ++ .appended c durable :: history) = some c := by
  induction since with
  | nil => rfl
  | cons e since ih =>
    obtain ⟨he, hsince⟩ := List.forall_mem_cons.1 h
    rcases e with ⟨call, result⟩ | _
    · exact ih hsince
    · cases he

/-- A call that does not update `latest`. -/
theorem WritesOrdered.called (h : WritesOrdered I hash intent history)
    (hupdates : (PublicationEvent.called call result).updatesLatest = false)
    (hannounced : call.isWrite = true → Announced intent (.called call result) history)
    (hversion : (PublicationEvent.called call result).createsVersion = true →
      Proven (·.Verified .create) history)
    (hremoval : (PublicationEvent.called call result).removesLock = true → Cleared I hash intent history) :
    WritesOrdered I hash intent (.called call result :: history) := by
  refine ⟨each_cons_iff.2 ⟨hannounced, h.announced⟩, ?_, each_cons_iff.2 ⟨hversion, h.version⟩,
    each_cons_iff.2 ⟨?_, h.latest⟩, each_cons_iff.2 ⟨hremoval, h.removal⟩, h.latched_cons ?_⟩
  · rw [List.countP_cons_of_neg (by simp [hupdates])]
    exact h.once
  · simp [hupdates]
  · rintro ⟨e, he, hupdated⟩
    rcases List.mem_cons.1 he with rfl | he
    · rw [hupdates] at hupdated
      cases hupdated
    · exact h.latched history (List.suffix_refl _) ⟨e, he, hupdated⟩

/-- A checkpoint keeps the order, if it remembers that `latest` was moved. -/
theorem WritesOrdered.appended (h : WritesOrdered I hash intent history) {c : PublicationCheckpoint} (durable : Bool)
    (hc : (∃ e ∈ history, e.updatesLatest = true) → c.latestWriteAttempted = true) :
    WritesOrdered I hash intent (.appended c durable :: history) := by
  refine ⟨each_cons_iff.2 ⟨nofun, h.announced⟩, ?_, each_cons_iff.2 ⟨nofun, h.version⟩,
    each_cons_iff.2 ⟨nofun, h.latest⟩, each_cons_iff.2 ⟨nofun, h.removal⟩, h.latched_cons ?_⟩
  · rw [List.countP_cons_of_neg (by simp [PublicationEvent.updatesLatest])]
    exact h.once
  · rintro ⟨e, he, hupdates⟩ r hr
    have hupdated : ∃ e ∈ history, e.updatesLatest = true := by
      rcases List.mem_cons.1 he with rfl | he
      · cases hupdates
      · exact ⟨e, he, hupdates⟩
    rcases durable with _ | _
    · rcases List.mem_cons.1 hr with rfl | hr
      · exact hc hupdated
      · exact h.latched history (List.suffix_refl _) hupdated r hr
    · rw [List.mem_singleton.1 hr]
      exact hc hupdated

end

/-! ## A run in order -/

section

variable {I : Interpreter} {hash : List ℕ → Text} {intent : ReleaseIntent} {C D : PublicationRun → Prop}
  {s s' : PublicationRun} {call : AdapterCall} {operation : Text}

/-- A run goes on in order, and its checkpoint knows of an update of `latest`. -/
structure GoingOn (I : Interpreter) (hash : List ℕ → Text) (intent : ReleaseIntent) (C : PublicationRun → Prop)
    (s : PublicationRun) : Prop where
  orderly : WritesOrdered I hash intent s.history
  attempted : (∃ e ∈ s.history, e.updatesLatest = true) → s.checkpoint.latestWriteAttempted = true
  context : C s

/-- More may be known of a run that goes on. -/
theorem GoingOn.and (h : GoingOn I hash intent C s) (hD : D s) : GoingOn I hash intent (fun s => C s ∧ D s) s :=
  ⟨h.orderly, h.attempted, h.context, hD⟩

/-- Less may be known of it. -/
theorem GoingOn.mono (h : GoingOn I hash intent C s) (hD : ∀ s, C s → D s) : GoingOn I hash intent D s :=
  ⟨h.orderly, h.attempted, hD s h.context⟩

/-- A run goes on behind a call that is in order and does not move `latest`. -/
theorem GoingOn.called (hC : Persistent C) (h : GoingOn I hash intent C s)
    {result : Except PublicationRaised call.Answer}
    (hstart : call.isStart = false) (hupdates : (PublicationEvent.called call result).updatesLatest = false)
    (horderly : WritesOrdered I hash intent (.called call result :: s.history)) :
    GoingOn I hash intent C (s.called call result) := by
  refine ⟨horderly, ?_, hC.called s call result hstart h.context⟩
  rintro ⟨e, he, hupdated⟩
  rcases List.mem_cons.1 he with rfl | he
  · rw [hupdates] at hupdated
    cases hupdated
  · exact h.attempted ⟨e, he, hupdated⟩

/-- A call that is none of the three last writes. -/
theorem GoingOn.called_of_not_isFinal (hC : Persistent C) (h : GoingOn I hash intent C s)
    {result : Except PublicationRaised call.Answer} (hstart : call.isStart = false)
    (hfinal : call.isFinal = false) (hannounced : call.isWrite = true → Announced intent (.called call result) s.history) :
    GoingOn I hash intent C (s.called call result) := by
  obtain ⟨hversion, hlatest, hremoval⟩ := @kinds_of_not_isFinal call result hfinal
  exact h.called hC hstart hlatest
    (h.orderly.called hlatest hannounced (by simp [hversion]) (by simp [hremoval]))

/-- The steps of the procedures keep a run going on. -/
theorem closed_goingOn (hC : Persistent C) : Closed (GoingOn I hash intent C) where
  asking s call result hcall h :=
    h.called_of_not_isFinal hC (isStart_of_isQuery hcall) (isFinal_of_not_isWrite (isWrite_of_isQuery hcall))
      fun hwrite => absurd ((isWrite_of_isQuery hcall).symm.trans hwrite) (by decide)
  reading s document result h := h.called_of_not_isFinal hC rfl rfl fun hwrite =>
    absurd hwrite Bool.false_ne_true
  appended s durable h := by
    refine ⟨h.orderly.appended durable h.attempted, ?_, hC.appended s durable h.context⟩
    rintro ⟨e, he, hupdates⟩
    rcases List.mem_cons.1 he with rfl | he
    · cases hupdates
    · exact h.attempted ⟨e, he, hupdates⟩
  changed s f hf h :=
    ⟨h.orderly, fun hupdated => (hf s.checkpoint).1.trans (h.attempted hupdated), hC.changed s f hf h.context⟩

/-- What is issued has been announced. -/
theorem Issued.announced (h : Issued operation s s') (call : AdapterCall)
    (hoperation : call.Operation intent operation) (result : Except PublicationRaised call.Answer) :
    Announced intent (.called call result) s'.history := by
  obtain ⟨since, hhistory, hquiet, hlock⟩ := h.history
  exact ⟨call, result, operation, _, since, s.history, rfl, hoperation, hhistory,
    fun e he => isAppend_of_isQuery (hquiet e he), rfl, hlock⟩

/-- The announcement of an issued write was appended. -/
theorem Issued.mem (h : Issued operation s s') :
    .appended (s.checkpoint.pending operation) true ∈ s'.history := by
  obtain ⟨since, hhistory, -⟩ := h.history
  rw [hhistory]
  exact List.mem_append_right _ List.mem_cons_self

/-- What was known of the public state is known when the call is issued. -/
theorem Issued.read (h : Issued operation s s') {state : PublicState} (hstate : Read state s.history) :
    Read state s'.history := by
  obtain ⟨since, hhistory, hquiet, -⟩ := h.history
  obtain ⟨e, he, hreads⟩ := hstate.cons (e := .appended (s.checkpoint.pending operation) true) rfl
  rw [hhistory]
  refine ⟨e, mem_takeWhile_append (fun e' he' => ?_) he, hreads⟩
  rcases e' with ⟨call, result⟩ | _
  · simpa [PublicationEvent.isStart] using isStart_of_isQuery (hquiet _ he')
  · rfl

/-- The state that was read last is the one from before the announcement. -/
theorem Issued.lastRead (h : Issued operation s s') : lastRead s'.history = lastRead s.history := by
  obtain ⟨since, hhistory, hquiet, -⟩ := h.history
  rw [hhistory, lastRead_append hquiet]
  rfl

/-- A probe that was verified is so in the announcement. -/
theorem pending_verified {c : PublicationCheckpoint} {kind : ProbeKind} (h : c.Verified kind) :
    (c.pending operation).Verified kind := by
  rcases kind with _ | _ <;> exact h

end

namespace Publisher

variable {P : Publisher} {intent : ReleaseIntent} {C : PublicationRun → Prop} {s : PublicationRun} {α β : Type}

/-- The writes but the three last ones keep a run going on. -/
theorem ordinary_goingOn (hC : Persistent C) :
    Ordinary P intent (GoingOn P.interpreter P.hash intent C) where
  toClosed := closed_goingOn hC
  written _ _ hoperation hfinal _ hs := ensures_publicWrite_of (closed_goingOn hC) hs
    fun _ result hissued h => h.called_of_not_isFinal hC (isStart_of_operation hoperation) hfinal
      fun _ => hissued.announced _ hoperation result

/-! ## The three last writes -/

/-- The image is put under its version behind a verified probe. -/
theorem ensures_conditionalCreateVersion (hC : Persistent C) (hs : GoingOn P.interpreter P.hash intent C s)
    (hverified : s.checkpoint.Verified .create) :
    Ensures (P.publicWrite (text "registry_version_conditional_create") .conditionalCreateVersion) s
      (fun _ => GoingOn P.interpreter P.hash intent C) (fun _ => GoingOn P.interpreter P.hash intent C) := by
  refine ensures_publicWrite_of (closed_goingOn hC) hs fun s' result hissued h => h.called hC rfl rfl ?_
  exact h.orderly.called rfl (fun _ => hissued.announced .conditionalCreateVersion rfl result)
    (fun _ => ⟨_, hissued.mem, pending_verified hverified⟩) nofun

/-- `latest` is updated behind a verified probe and an anonymous pull, and if it was not tried before. -/
theorem ensures_updateLatest (hC : Persistent C) (hs : GoingOn P.interpreter P.hash intent C s)
    (hverified : s.checkpoint.Verified .cas) (hsmoked : Smoked s)
    (hattempted : s.checkpoint.latestWriteAttempted = true)
    (hnone : ∀ e ∈ s.history, e.updatesLatest = false) (expectedPriorDigest : Option Text) :
    Ensures (P.publicWrite (text "registry_latest_update") (.updateLatest expectedPriorDigest)) s
      (fun _ => GoingOn P.interpreter P.hash intent C) (fun _ => GoingOn P.interpreter P.hash intent C) := by
  refine ensures_publicWrite_of (closed_goingOn hC) hs fun s' result hissued h => ?_
  obtain ⟨sequence, previous, hcheckpoint⟩ := hissued.checkpoint
  obtain ⟨since, hhistory, hquiet, -⟩ := hissued.history
  have hannounced : Announced intent (.called (.updateLatest expectedPriorDigest) result) s'.history :=
    hissued.announced (.updateLatest expectedPriorDigest) rfl result
  have hloadable : ∀ r ∈ loadableCheckpoints s'.history, r.any (·.latestWriteAttempted) = true := by
    intro r hr
    rw [hhistory, loadableCheckpoints_append fun e he => isAppend_of_isQuery (hquiet e he)] at hr
    rw [List.mem_singleton.1 hr]
    exact hattempted
  have hcount : s'.history.countP (·.updatesLatest) = 0 := by
    rw [hhistory, List.countP_eq_zero]
    intro e he
    rcases List.mem_append.1 he with he | he
    · simp [updatesLatest_of_isQuery (hquiet e he)]
    rcases List.mem_cons.1 he with rfl | he
    · exact Bool.false_ne_true
    · simp [hnone e he]
  refine ⟨⟨each_cons_iff.2 ⟨fun _ => hannounced, h.orderly.announced⟩, ?_,
    each_cons_iff.2 ⟨nofun, h.orderly.version⟩, each_cons_iff.2 ⟨fun _ => ?_, h.orderly.latest⟩,
    each_cons_iff.2 ⟨nofun, h.orderly.removal⟩, h.orderly.latched_cons fun _ => hloadable⟩, fun _ => ?_,
    hC.called _ _ _ rfl h.context⟩
  · exact (List.countP_cons_of_pos rfl).trans_le (by rw [hcount])
  · exact ⟨_, hissued.mem, pending_verified hverified, hsmoked⟩
  · exact (congrArg PublicationCheckpoint.latestWriteAttempted hcheckpoint).trans hattempted

/-- The lock is removed behind all parts, with the evidence read again. -/
theorem ensures_removeLockExact (hC : Persistent C) (hs : GoingOn P.interpreter P.hash intent C s)
    (hseen : ∀ part, Seen intent part s.history) (hlatest : LastSeen intent .latest s.history)
    (hread : ∀ kind, ReadProbe P.interpreter P.hash intent kind s) (objectSha : Json) :
    Ensures (P.publicWrite (text "lock_ref_remove") (.removeLockExact objectSha)) s
      (fun _ => GoingOn P.interpreter P.hash intent C) (fun _ => GoingOn P.interpreter P.hash intent C) := by
  refine ensures_publicWrite_of (closed_goingOn hC) hs fun s' result hissued h => h.called hC rfl rfl ?_
  have hannounced : Announced intent (.called (.removeLockExact objectSha) result) s'.history :=
    hissued.announced (.removeLockExact objectSha) rfl result
  refine h.orderly.called rfl (fun _ => hannounced) nofun fun _ => ⟨fun part => ?_, ?_, ?_⟩
  · obtain ⟨state, hstate, hpart⟩ := hseen part
    exact ⟨state, hissued.read hstate, hpart⟩
  · obtain ⟨state, hlast, hpart⟩ := hlatest
    exact ⟨state, hissued.lastRead.trans hlast, hpart⟩
  · obtain ⟨since, hhistory, hquiet, -⟩ := hissued.history
    rw [hhistory]
    refine ⟨_, lastAppended_append fun e he => isAppend_of_isQuery (hquiet e he), fun kind => ?_⟩
    obtain ⟨receipt, observation, hreceipt, hmem, hretained⟩ := hread kind
    refine ⟨receipt, observation, ?_, ?_, hretained⟩
    · rcases kind with _ | _ <;> exact hreceipt
    · refine mem_takeWhile_append (fun e he => ?_) (mem_takeWhile_cons (by simp [PublicationEvent.isWrite]) hmem)
      rcases e with ⟨call, result⟩ | _
      · simpa [PublicationEvent.isWrite] using isWrite_of_isQuery (hquiet _ he)
      · rfl

/-! ## A whole run -/

/-- A step that keeps the order, with what is known of its result. -/
theorem ensures_step {m : Publish α} {f : α → Publish β} {Q : α → PublicationRun → Prop}
    {R : β → PublicationRun → Prop} (hm : Preserves (GoingOn P.interpreter P.hash intent C) m)
    (hs : GoingOn P.interpreter P.hash intent C s) (hq : Returns m s Q)
    (hf : ∀ a s', GoingOn P.interpreter P.hash intent C s' → Q a s' →
      Ensures (f a) s' R fun _ s' => WritesOrdered P.interpreter P.hash intent s'.history) :
    Ensures (m >>= f) s R fun _ s' => WritesOrdered P.interpreter P.hash intent s'.history :=
  ensures_bind.2 (((hm s hs).and hq).mono (fun a s' h => hf a s' h.1 h.2) fun _ _ h => h.1.orderly)

/-- A procedure that keeps the order, however it ends. -/
theorem ensures_goingOn {m : Publish α} (hm : Preserves (GoingOn P.interpreter P.hash intent C) m)
    (hs : GoingOn P.interpreter P.hash intent C s) :
    Ensures m s (fun _ => GoingOn P.interpreter P.hash intent C)
      (fun _ s' => WritesOrdered P.interpreter P.hash intent s'.history) :=
  (hm s hs).mono (fun _ _ h => h) fun _ _ h => h.orderly

/-- Nothing is asked. -/
theorem returns_any {m : Publish α} : Returns m s fun _ _ => True :=
  ensures_of_forall (fun _ _ => trivial) fun _ _ => trivial

/-- The creation of the version is in order: both probes were verified, and the main branch and the tag
    read. -/
theorem preserves_publishVersion (hC : Persistent C) (state : PublicState) :
    Preserves (GoingOn P.interpreter P.hash intent C) (P.publishVersion intent state) := by
  have hordinary : Ordinary P intent (GoingOn P.interpreter P.hash intent C) := ordinary_goingOn hC
  refine preserves_bind (preserves_requireLock hordinary.asking) fun _ => preserves_bind ?_ fun state =>
    preserves_bind (preserves_stopIf _ _) fun _ => preserves_verifyRetainedProbe hordinary.asking _
  refine preserves_ite (fun _ s hs => ?_) fun _ => preserves_pure _
  -- The probe is verified, and stays so under the lock.
  rw [ensures_bind]
  refine ((preserves_runVersionCreateProbe hordinary s hs).and returns_runVersionCreateProbe).mono ?_
    fun _ _ h => h.1
  rintro _ s₁ ⟨hs₁, hverified⟩
  have hasking : Asking fun s : PublicationRun => s.checkpoint.Verified .create := fun _ _ _ _ h => h
  refine ensures_bind_of_preserves (preserves_requireLock (Asking.and hordinary.asking hasking)) ⟨hs₁, hverified⟩
    (fun _ s₂ hs₂ => ?_) fun _ _ h => h.1
  refine ensures_bind.2 ((ensures_conditionalCreateVersion hC hs₂.1 hs₂.2).mono (fun _ s₃ hs₃ => ?_) fun _ _ h => h)
  exact preserves_readState hordinary.toClosed s₃ hs₃

/-- `latest` is armed. -/
def arm (c : PublicationCheckpoint) : PublicationCheckpoint :=
  { c with latestWriteAttempted := true, phase := text "registry_latest_update_armed" }

/-- Whether `latest` was attempted stays in the checkpoint. -/
theorem persistent_attempted (b : Bool) :
    Persistent fun s : PublicationRun => s.checkpoint.latestWriteAttempted = b :=
  ⟨fun _ _ _ _ h => h, fun _ _ h => h, fun s _ hf h => (hf s.checkpoint).1.trans h⟩

/-- The update of `latest`, of a run that has not tried it. -/
theorem ensures_armed (hC : Persistent C) (hsmoked : ∀ s, C s → Smoked s) (harm : ∀ s, C s → C (s.changed arm))
    (hs : GoingOn P.interpreter P.hash intent
      (fun s => C s ∧ s.checkpoint.latestWriteAttempted = false) s)
    (hverified : s.checkpoint.Verified .cas) (expectedPriorDigest : Option Text) :
    Ensures (do
        update arm
        P.record
        let _ ← P.publicWrite (text "registry_latest_update") (.updateLatest expectedPriorDigest)
        P.readState intent) s
      (fun _ => GoingOn P.interpreter P.hash intent C) (fun _ => GoingOn P.interpreter P.hash intent C) := by
  have hclosed : Closed (GoingOn P.interpreter P.hash intent C) := closed_goingOn hC
  have hnone : ∀ e ∈ s.history, e.updatesLatest = false := by
    intro e he
    by_contra hupdates
    have hattempted := hs.attempted ⟨e, he, Bool.eq_true_of_not_eq_false hupdates⟩
    rw [hs.context.2] at hattempted
    cases hattempted
  have harmed : GoingOn P.interpreter P.hash intent C (s.changed arm) :=
    ⟨hs.orderly, fun _ => rfl, harm s hs.context.1⟩
  rw [ensures_bind, Publisher.update, ensures_modify, ensures_bind]
  refine ensures_record (fun sequence previous => ?_) fun _ => hclosed.appended _ false harmed
  have hrecorded := hclosed.changed _ _ (inessential_numbered sequence previous) (hclosed.appended _ true harmed)
  refine ensures_bind.2 ((ensures_updateLatest hC hrecorded hverified (hsmoked _ hrecorded.context) rfl ?_
    expectedPriorDigest).mono (fun _ s₁ hs₁ => ?_) fun _ _ h => h)
  · exact List.forall_mem_cons.2 ⟨rfl, hnone⟩
  · exact preserves_readState hclosed s₁ hs₁

/-- The update of `latest` is in order: it is announced and armed, and the pull is recorded. -/
theorem preserves_publishLatest (hC : Persistent C) (hsmoked : ∀ s, C s → Smoked s)
    (harm : ∀ s, C s → C (s.changed arm)) (state : PublicState) :
    Preserves (GoingOn P.interpreter P.hash intent C) (P.publishLatest intent state) := by
  have hordinary : Ordinary P intent (GoingOn P.interpreter P.hash intent C) := ordinary_goingOn hC
  refine preserves_bind (preserves_requireLock hordinary.asking) fun _ s hs => ensures_bind.2 ?_
  rw [ensures_get, ensures_bind, ensures_ite]
  refine ⟨fun _ => ?_, fun hfresh => ?_⟩
  · refine ((preserves_recordUnresolved hordinary.toClosed s hs).and returns_recordUnresolved).mono ?_
      fun _ _ h => h.1
    exact fun _ _ h => h.2.elim
  rw [ensures_pure, ensures_bind, ensures_ite]
  refine ⟨fun hprior => ?_, fun _ => preserves_stopIf _ _ s hs⟩
  have hcontext : Persistent fun s => C s ∧ s.checkpoint.latestWriteAttempted = false :=
    hC.and (persistent_attempted false)
  have hkept : Ordinary P intent (GoingOn P.interpreter P.hash intent
      fun s => C s ∧ s.checkpoint.latestWriteAttempted = false) := ordinary_goingOn hcontext
  have hstart : GoingOn P.interpreter P.hash intent
      (fun s => C s ∧ s.checkpoint.latestWriteAttempted = false) s :=
    hs.and (Bool.eq_false_iff.2 fun hattempted => hfresh ⟨hattempted, hprior⟩)
  have hforget (s' : PublicationRun) (h : GoingOn P.interpreter P.hash intent
      (fun s => C s ∧ s.checkpoint.latestWriteAttempted = false) s') :
      GoingOn P.interpreter P.hash intent C s' := h.mono fun _ h => h.1
  refine ensures_bind_of_preserves (preserves_readState hkept.toClosed) hstart (fun again s₁ hs₁ => ?_)
    fun _ s' h => hforget s' h
  refine ensures_bind_of_preserves (preserves_stopIf _ _) hs₁ (fun _ s₂ hs₂ => ?_) fun _ s' h => hforget s' h
  refine ensures_bind.2 (((preserves_runLatestCasProbe hkept s₂ hs₂).and returns_runLatestCasProbe).mono ?_
    fun _ s' h => hforget s' h.1)
  rintro _ s₃ ⟨hs₃, hverified⟩
  have hasking : Asking fun s : PublicationRun => s.checkpoint.Verified .cas := fun _ _ _ _ h => h
  refine ensures_bind_of_preserves (preserves_requireLock (Asking.and hkept.asking hasking)) ⟨hs₃, hverified⟩
    (fun _ s₄ hs₄ => ?_) fun _ s' h => hforget s' h.1
  refine (ensures_armed hC hsmoked harm hs₄.1 hs₄.2 _).mono (fun state s₅ hs₅ => ?_) fun _ _ h => h
  exact preserves_stopIf _ _ s₅ hs₅

/-- The parts that were seen so far. -/
def SeenAll (intent : ReleaseIntent) (parts : List PublicPart) (s : PublicationRun) : Prop :=
  ∀ part ∈ parts, Seen intent part s.history

/-- All the parts that were seen stay seen. -/
theorem persistent_seenAll (parts : List PublicPart) : Persistent (SeenAll intent parts) :=
  ⟨fun s call result hcall h part hpart => (persistent_seen intent part).called s call result hcall (h part hpart),
    fun s durable h part hpart => (persistent_seen intent part).appended s durable (h part hpart),
    fun _ _ _ h => h⟩

/-- One more part was seen. -/
theorem SeenAll.cons {parts : List PublicPart} {part : PublicPart} (h : SeenAll intent parts s)
    (hpart : Seen intent part s.history) : SeenAll intent (part :: parts) s :=
  List.forall_mem_cons.2 ⟨hpart, h⟩

/-- A part of the state that is returned was seen. -/
theorem ReadWith.seen {part : PublicPart} {state : PublicState} (h : ReadWith intent part state s) :
    Seen intent part s.history := ⟨state, h.1.2, h.2⟩

/-- It is in the state that was read last. -/
theorem ReadWith.lastSeen {part : PublicPart} {state : PublicState} (h : ReadWith intent part state s) :
    LastSeen intent part s.history := ⟨state, h.1.1, h.2⟩

/-- The anonymous pull writes nothing. -/
theorem preserves_smoke {parts : List PublicPart} (proof : LocalSourceProof) :
    Preserves (GoingOn P.interpreter P.hash intent (SeenAll intent parts)) (P.smoke intent proof) := by
  have hclosed : Closed (GoingOn P.interpreter P.hash intent (SeenAll intent parts)) :=
    closed_goingOn (persistent_seenAll parts)
  refine preserves_bind (preserves_requireLock hclosed.asking) fun _ =>
    preserves_bind (preserves_ask hclosed.asking rfl) fun _ => preserves_bind (preserves_lift _) fun _ =>
      preserves_bind (preserves_stopIf _ _) fun _ => preserves_bind (preserves_lift _) fun document =>
        preserves_bind (fun s hs => ?_) fun _ => preserves_record hclosed
  exact ⟨hs.orderly, hs.attempted, hs.context⟩

/-- A loop over the blobs or the manifests, with their places. -/
theorem preserves_zipIdx {γ : Type} {I : PublicationRun → Prop} {l : List γ} {f : ℕ → γ → Publish Unit}
    (hf : ∀ index a, l[index]? = some a → Preserves I (f index a)) :
    Preserves I (l.zipIdx.forM fun entry => f entry.2 entry.1) :=
  preserves_forM fun _ hentry => hf _ _ (List.mem_zipIdx_iff_getElem?.1 hentry)

/-- The steps up to the removal of the lock: all parts were seen, and the evidence was read again. -/
theorem ensures_publishAll (proof : LocalSourceProof) (document : Text)
    (hs : GoingOn P.interpreter P.hash intent (SeenAll intent []) s) :
    Ensures (P.publishAll intent proof document) s
      (fun _ s' => GoingOn P.interpreter P.hash intent
        (SeenAll intent [.latest, .release, .version, .tag, .main]) s' ∧
          LastSeen intent .latest s'.history ∧ ∀ kind, ReadProbe P.interpreter P.hash intent kind s')
      (fun _ s' => WritesOrdered P.interpreter P.hash intent s'.history) := by
  have hseen (parts : List PublicPart) : Persistent (SeenAll intent parts) := persistent_seenAll parts
  refine ensures_step (preserves_acquireLock (ordinary_goingOn (hseen [])) document) hs returns_any
    fun _ s₁ hs₁ _ => ?_
  refine ensures_step (preserves_publishMain (ordinary_goingOn (hseen []))) hs₁ returns_publishMain
    fun state s₂ hs₂ hmain => ?_
  replace hs₂ : GoingOn P.interpreter P.hash intent (SeenAll intent [.main]) s₂ :=
    ⟨hs₂.orderly, hs₂.attempted, hs₂.context.cons hmain.seen⟩
  refine ensures_step (preserves_publishTag (ordinary_goingOn (hseen _)) state) hs₂
    (returns_publishTag hmain.1) fun state s₃ hs₃ htag => ?_
  -- The state is kept in mind until the image is put under its version.
  have hcontext : Persistent fun s => SeenAll intent [.tag, .main] s ∧ Read state s.history :=
    (hseen _).and (persistent_read state)
  have hordinary : Ordinary P intent (GoingOn P.interpreter P.hash intent
      fun s => SeenAll intent [.tag, .main] s ∧ Read state s.history) := ordinary_goingOn hcontext
  replace hs₃ : GoingOn P.interpreter P.hash intent
      (fun s => SeenAll intent [.tag, .main] s ∧ Read state s.history) s₃ :=
    ⟨hs₃.orderly, hs₃.attempted, hs₃.context.cons htag.seen, htag.1.2⟩
  refine ensures_step (preserves_zipIdx fun _ _ h => preserves_publishBlob hordinary h) hs₃ returns_any
    fun _ s₄ hs₄ _ => ?_
  refine ensures_step (preserves_zipIdx fun _ _ h => preserves_publishManifest hordinary h) hs₄ returns_any
    fun _ s₅ hs₅ _ => ?_
  refine ensures_step (preserves_publishVersion hcontext state) hs₅ (returns_publishVersion hs₅.context.2)
    fun _ s₆ hs₆ hversion => ?_
  replace hs₆ : GoingOn P.interpreter P.hash intent (SeenAll intent [.version, .tag, .main]) s₆ :=
    ⟨hs₆.orderly, hs₆.attempted, hs₆.context.1.cons hversion⟩
  refine ensures_step (preserves_smoke proof) hs₆ (returns_smoke proof) fun _ s₇ hs₇ hsmoked => ?_
  have hsmoke (parts : List PublicPart) : Persistent fun s => SeenAll intent parts s ∧ Smoked s :=
    (hseen parts).and persistent_smoked
  refine ensures_step (preserves_publishRelease (ordinary_goingOn (hsmoke _))) (hs₇.and hsmoked)
    returns_publishRelease fun state s₈ hs₈ hrelease => ?_
  replace hs₈ : GoingOn P.interpreter P.hash intent
      (fun s => SeenAll intent [.release, .version, .tag, .main] s ∧ Smoked s) s₈ :=
    ⟨hs₈.orderly, hs₈.attempted, hs₈.context.1.cons hrelease.seen, hs₈.context.2⟩
  refine ensures_step (preserves_publishLatest (hsmoke _) (fun _ h => h.2) (fun _ h => h) state) hs₈
    (returns_publishLatest hrelease.1) fun _ s₉ hs₉ hlatest => ?_
  obtain ⟨state, hlatest⟩ := hlatest
  replace hs₉ : GoingOn P.interpreter P.hash intent
      (SeenAll intent [.latest, .release, .version, .tag, .main]) s₉ :=
    ⟨hs₉.orderly, hs₉.attempted, hs₉.context.1.cons hlatest.seen⟩
  have hverify : Preserves (fun s => GoingOn P.interpreter P.hash intent
      (SeenAll intent [.latest, .release, .version, .tag, .main]) s ∧ LastSeen intent .latest s.history)
      (P.verifyCompletionEvidence intent) :=
    preserves_verifyCompletionEvidence
      (Asking.and (closed_goingOn (hseen _)).asking (asking_lastSeen intent .latest))
  exact ((hverify s₉ ⟨hs₉, hlatest.lastSeen⟩).and returns_verifyCompletionEvidence).mono
    (fun _ _ h => ⟨h.1.1, h.1.2, h.2⟩) fun _ _ h => h.1.1.orderly

/-- The removal of the lock, and the record of the completion. -/
theorem ensures_removal (hs : GoingOn P.interpreter P.hash intent
      (SeenAll intent [.latest, .release, .version, .tag, .main]) s)
    (hlatest : LastSeen intent .latest s.history)
    (hread : ∀ kind, ReadProbe P.interpreter P.hash intent kind s) :
    Ensures (P.removeLock intent) s (fun _ s' => WritesOrdered P.interpreter P.hash intent s'.history)
      (fun _ s' => WritesOrdered P.interpreter P.hash intent s'.history) := by
  have hseen : Persistent (SeenAll intent [.latest, .release, .version, .tag, .main]) := persistent_seenAll _
  have hclosed : Closed (GoingOn P.interpreter P.hash intent _) := closed_goingOn hseen
  have hprobes : Asking fun s => ∀ kind, ReadProbe P.interpreter P.hash intent kind s :=
    fun s call result hcall h kind => asking_readProbe s call result hcall (h kind)
  have hasking := Asking.and hclosed.asking (Asking.and (asking_lastSeen intent .latest) hprobes)
  refine ensures_bind_of_preserves (preserves_requireLock hasking) ⟨hs, hlatest, hread⟩
    (fun _ s₁ hs₁ => ?_) fun _ _ h => h.1.orderly
  rw [ensures_bind, ensures_get, ensures_bind]
  have hparts (part : PublicPart) : Seen intent part s₁.history := by
    refine hs₁.1.context part ?_
    rcases part with _ | _ | _ | _ | _ <;> simp
  refine (ensures_removeLockExact hseen hs₁.1 hparts hs₁.2.1 hs₁.2.2 _).mono (fun _ s₂ hs₂ => ?_)
    fun _ _ h => h.orderly
  refine (ensures_goingOn ?_ hs₂).mono (fun _ _ h => h.orderly) fun _ _ h => h
  refine preserves_bind (preserves_readState hclosed) fun state =>
    preserves_bind (preserves_stopIf _ _) fun _ => preserves_bind (preserves_update hclosed ?_) fun _ =>
      preserves_bind (preserves_record hclosed) fun _ => preserves_stopIf _ _
  exact fun _ => ⟨rfl, rfl⟩

/-! ## The start of a run -/

/-- A run that has not yet taken up what was loaded. -/
def Fresh (I : Interpreter) (hash : List ℕ → Text) (intent : ReleaseIntent)
    (recovery : Option PublicationCheckpoint) (s : PublicationRun) : Prop :=
  WritesOrdered I hash intent s.history ∧ LoadsLatest s.history recovery

/-- A run that has written nothing may ask. -/
theorem Fresh.called {recovery : Option PublicationCheckpoint} (h : Fresh P.interpreter P.hash intent recovery s)
    {call : AdapterCall} (hcall : call.isWrite = false) (result : Except PublicationRaised call.Answer) :
    Fresh P.interpreter P.hash intent recovery (s.called call result) := by
  obtain ⟨horderly, hloads⟩ := h
  obtain ⟨hversion, hlatest, hremoval⟩ := @kinds_of_not_isFinal call result (isFinal_of_not_isWrite hcall)
  refine ⟨horderly.called hlatest (fun hwrite => ?_) (by simp [hversion]) (by simp [hremoval]), ?_⟩
  · rw [hcall] at hwrite
    cases hwrite
  · rcases recovery with _ | _ <;> exact hloads

/-- The same as a property of runs. -/
theorem asking_fresh {recovery : Option PublicationCheckpoint} :
    Asking (Fresh P.interpreter P.hash intent recovery) :=
  fun _ _ result hcall h => h.called (isWrite_of_isQuery hcall) result

/-- A run without a recovery goes on, with no part seen. -/
theorem orderly_startFresh (hs : Fresh P.interpreter P.hash intent none s) :
    Ensures (P.startFresh intent) s (fun _ => GoingOn P.interpreter P.hash intent (SeenAll intent []))
      (fun _ s' => WritesOrdered P.interpreter P.hash intent s'.history) := by
  have hasking : Asking (Fresh P.interpreter P.hash intent none) := asking_fresh
  have hclosed : Closed (GoingOn P.interpreter P.hash intent (SeenAll intent [])) :=
    closed_goingOn (persistent_seenAll [])
  refine ensures_bind_of_preserves (preserves_actionsSnapshot hasking) hs (fun first s₁ hs₁ => ?_) fun _ _ h => h.1
  refine ensures_bind_of_preserves (preserves_actionsSnapshot hasking) hs₁ (fun second s₂ hs₂ => ?_)
    fun _ _ h => h.1
  refine ensures_bind_of_preserves (preserves_stopIf _ _) hs₂ (fun _ s₃ hs₃ => ?_) fun _ _ h => h.1
  refine ensures_bind_of_preserves (preserves_fresh _) hs₃ (fun runToken s₄ hs₄ => ?_) fun _ _ h => h.1
  refine ensures_bind_of_preserves (preserves_lift _) hs₄ (fun document s₅ hs₅ => ?_) fun _ _ h => h.1
  refine ensures_bind_of_preserves (preserves_lift _) hs₅ (fun intentSha256 s₆ hs₆ => ?_) fun _ _ h => h.1
  -- Nothing was appended durably, so that `latest` was not updated.
  have hstart : GoingOn P.interpreter P.hash intent (SeenAll intent [])
      (s₆.changed fun _ => .prepared intentSha256 runToken (P.hash document) first) := by
    refine ⟨hs₆.1, fun hupdated => ?_, by simp [SeenAll]⟩
    exact absurd (hs₆.1.latched _ (List.suffix_refl _) hupdated none hs₆.2) Bool.false_ne_true
  rw [ensures_bind, Publisher.update, ensures_modify]
  refine ensures_goingOn ?_ hstart
  exact preserves_bind (preserves_readState hclosed) fun state =>
    preserves_bind (preserves_stopIf _ _) fun _ => preserves_bind (preserves_stopIf _ _) fun _ =>
      preserves_bind (preserves_record hclosed) fun _ => preserves_pure _

/-- So does a run with one; if the publication is complete already it ends in order. -/
theorem orderly_startRecovered (recovery : PublicationCheckpoint)
    (hs : Fresh P.interpreter P.hash intent (some recovery) s) :
    Ensures (P.startRecovered intent recovery) s
      (fun _ => GoingOn P.interpreter P.hash intent (SeenAll intent []))
      (fun _ s' => WritesOrdered P.interpreter P.hash intent s'.history) := by
  have hclosed : Closed (GoingOn P.interpreter P.hash intent (SeenAll intent [])) :=
    closed_goingOn (persistent_seenAll [])
  have hstart : GoingOn P.interpreter P.hash intent (SeenAll intent []) (s.changed fun _ => recovery) := by
    refine ⟨hs.1, fun hupdated => ?_, by simp [SeenAll]⟩
    obtain ⟨c, hc, hattempted⟩ := hs.2
    exact hattempted.trans (hs.1.latched _ (List.suffix_refl _) hupdated (some c) hc)
  unfold startRecovered
  rw [ensures_bind, Publisher.update, ensures_modify]
  have hrecorded : Preserves (GoingOn P.interpreter P.hash intent (SeenAll intent []))
      (do P.recordRecovered intent; return (none : Option Text)) :=
    preserves_bind (preserves_recordRecovered hclosed) fun _ => preserves_pure _
  refine ensures_goingOn ?_ hstart
  refine preserves_bind (preserves_lift _) fun _ =>
    preserves_bind (preserves_assertActionsUnchanged hclosed.asking) fun _ =>
      preserves_bind (preserves_lift _) fun document =>
        preserves_bind (preserves_readState hclosed) fun state => ?_
  refine preserves_ite (fun _ => ?_) fun _ => preserves_ite (fun _ => hrecorded) fun _ => ?_
  · exact preserves_bind (preserves_stopIf _ _) fun _ => preserves_bind (preserves_stopIf _ _) fun _ => hrecorded
  · exact preserves_bind (preserves_reconcileLock hclosed state) fun _ => preserves_pure _

/-- Both of them. -/
theorem orderly_start (recovery : Option PublicationCheckpoint)
    (hs : Fresh P.interpreter P.hash intent recovery s) :
    Ensures (P.start intent recovery) s (fun _ => GoingOn P.interpreter P.hash intent (SeenAll intent []))
      (fun _ s' => WritesOrdered P.interpreter P.hash intent s'.history) := by
  rcases recovery with _ | recovery
  · rw [start, ensures_map]
    exact orderly_startFresh hs
  · exact orderly_startRecovered recovery hs

/-- However a run ends, its writes are in order. -/
theorem orderly_publish (recovery : Option PublicationCheckpoint)
    (hs : Fresh P.interpreter P.hash intent recovery s) :
    Ensures (P.publish intent recovery) s (fun _ s' => WritesOrdered P.interpreter P.hash intent s'.history)
      (fun _ s' => WritesOrdered P.interpreter P.hash intent s'.history) := by
  have hsources : Preserves (Fresh P.interpreter P.hash intent recovery) (P.ask .verifyLocalSources) := fun s hs =>
    ensures_ask (fun _ => hs.called rfl _) fun _ => hs.called rfl _
  have hvalidated : Preserves (Fresh P.interpreter P.hash intent recovery) (P.validated intent) := by
    unfold validated
    split
    · exact preserves_pure _
    · exact preserves_throw _
  refine ensures_bind_of_preserves hvalidated hs (fun _ s₁ hs₁ => ?_) fun _ _ h => h.1
  refine ensures_bind_of_preserves hsources hs₁ (fun proof s₂ hs₂ => ?_) fun _ _ h => h.1
  refine ensures_bind_of_preserves (preserves_lift _) hs₂ (fun _ s₃ hs₃ => ?_) fun _ _ h => h.1
  refine ensures_bind.2 ((orderly_start recovery hs₃).mono (fun started s₄ hs₄ => ?_) fun _ _ h => h)
  rcases started with _ | document
  · exact hs₄.orderly
  · refine ensures_bind.2 ((ensures_publishAll proof document hs₄).mono (fun _ s₅ hs₅ => ?_) fun _ _ h => h)
    exact ensures_removal hs₅.1 hs₅.2.1 hs₅.2.2

end Publisher

/-! ## Recoveries -/

section

variable {I : Interpreter} {hash : List ℕ → Text} {intent : ReleaseIntent} {history : List PublicationEvent}

/-- All runs of a journal are in order. -/
theorem JournalHistory.orderly (h : JournalHistory I hash intent history) : WritesOrdered I hash intent history := by
  induction h with
  | nil => exact writesOrdered_nil
  | run P c₀ _ hinterpreter hhash hloads _ hrun ih =>
    subst hinterpreter hhash
    exact (ensures_iff_after.1 (Publisher.orderly_publish _ ⟨ih, hloads⟩)).of_suffix hrun

/-! ## What is public -/

/-- Nothing that is published is taken back. -/
theorem has_effect {state : PublicState} {part : PublicPart} (h : state.has intent part = true) (call : AdapterCall) :
    (call.effect intent state).has intent part = true := by
  rcases call with _ | _ | _ | _ | _ | _ | _ | _ | _ | _ | _ | _ | _ | _ | _ | _ | _ | _ | _ | _ | _
  case advanceMain => rcases part with _ | _ | _ | _ | _ <;> first | exact h | exact decide_eq_true rfl
  case createVersionTagRef => rcases part with _ | _ | _ | _ | _ <;> first | exact h | exact decide_eq_true rfl
  case conditionalCreateVersion =>
    rw [AdapterCall.effect]
    split_ifs
    · rcases part with _ | _ | _ | _ | _ <;> first | exact h | exact decide_eq_true rfl
    · exact h
  case createRelease =>
    rcases part with _ | _ | _ | _ | _
    case release => simp [AdapterCall.effect, PublicState.has, ReleaseIntent.releaseView, ReleaseView.isExact]
    all_goals exact h
  case updateLatest =>
    rw [AdapterCall.effect]
    split_ifs
    · rcases part with _ | _ | _ | _ | _ <;> first | exact h | exact decide_eq_true rfl
    · exact h
  all_goals exact h

/-- What a world was that nobody else writes to, it was before. -/
theorem PublicWorld.of_suffix {earlier : List PublicationEvent} {state : PublicState} (h : PublicWorld intent history state)
    (hsuffix : earlier <:+ history) : ∃ state', PublicWorld intent earlier state' := by
  induction h with
  | start state => exact ⟨state, List.suffix_nil.1 hsuffix ▸ .start state⟩
  | @event history state e h hread ih =>
    rcases List.suffix_cons_iff.1 hsuffix with rfl | hsuffix
    · exact ⟨state, .event e h hread⟩
    · exact ih hsuffix
  | effect _ _ ih => exact ih hsuffix
  | lock _ _ ih => exact ih hsuffix

/-- A part that was read is there, and was there when the state was read last. -/
theorem PublicWorld.has_of_read {state : PublicState} {part : PublicPart} (h : PublicWorld intent history state)
    (hseen : ∃ e ∈ history, ∃ seen, e.reads = some seen ∧ seen.has intent part = true) :
    state.has intent part = true ∧ ∀ last, lastRead history = some last → last.has intent part = true := by
  induction h with
  | start state =>
    obtain ⟨e, he, -⟩ := hseen
    exact absurd he List.not_mem_nil
  | @event history state e h hread ih =>
    obtain ⟨e', he', seen, hreads, hpart⟩ := hseen
    rcases hlast : e.reads with _ | last
    · -- The event reads nothing, so that the part was read before.
      rw [lastRead_cons, hlast]
      rcases List.mem_cons.1 he' with rfl | he'
      · rw [hlast] at hreads
        cases hreads
      · exact ih ⟨e', he', seen, hreads, hpart⟩
    · obtain rfl := hread last hlast
      have hstate : last.has intent part = true := by
        rcases List.mem_cons.1 he' with rfl | he'
        · rw [hlast] at hreads
          obtain rfl := Option.some.inj hreads
          exact hpart
        · exact (ih ⟨e', he', seen, hreads, hpart⟩).1
      refine ⟨hstate, fun last' hlast' => ?_⟩
      rw [lastRead_cons, hlast] at hlast'
      obtain rfl := Option.some.inj hlast'
      exact hstate
  | @effect history state call result _ _ ih => exact ⟨has_effect (ih hseen).1 call, (ih hseen).2⟩
  | lock lock _ ih =>
    refine ⟨?_, (ih hseen).2⟩
    have hstate := (ih hseen).1
    rcases part with _ | _ | _ | _ | _ <;> exact hstate

end

/-! ## The order of the writes -/

/-- Over all runs of a journal: every public write is announced, and issued under the lock; `latest` is updated
    once at most; the images come behind their evidence; and the lock is removed when this run has seen every
    part, `latest` at last, and has read the evidence again. The state that was read last is then the final
    one if nobody takes back what is published; without that, each part is compared on the read of its own
    step only, and the lock is all that guards it from then on. -/
theorem writes_in_order {I : Interpreter} {hash : List ℕ → Text} {intent : ReleaseIntent}
    {history : List PublicationEvent} (h : JournalHistory I hash intent history) :
    Each (fun e => e.isWrite = true) (fun _ => Announced intent) history ∧
    history.countP (·.updatesLatest) ≤ 1 ∧
    Each (fun e => e.createsVersion = true) (fun _ _ => Proven (·.Verified .create)) history ∧
    Each (fun e => e.updatesLatest = true)
      (fun _ _ => Proven fun c => c.Verified .cas ∧ isNone c.anonymousSmokeSha256 = false) history ∧
    Each (fun e => e.removesLock = true) (fun _ _ => Cleared I hash intent) history ∧
    ∀ state, PublicWorld intent history state → Each (fun e => e.removesLock = true)
      (fun _ _ before => ∃ last, lastRead before = some last ∧ FullyPublished intent last) history := by
  have horder := h.orderly
  refine ⟨horder.announced, horder.once, horder.version, horder.latest, horder.removal, fun state hworld => ?_⟩
  rintro after e before rfl hremoves
  -- Each part was seen on some read before, and stays as long as nobody takes it back.
  obtain ⟨hseen, ⟨last, hlast, -⟩, -⟩ := horder.removal after e before rfl hremoves
  have hsuffix : before <:+ after ++ e :: before := (List.suffix_cons e before).trans (List.suffix_append _ _)
  obtain ⟨state', hworld'⟩ := hworld.of_suffix hsuffix
  refine ⟨last, hlast, fullyPublished_iff.2 fun part => ?_⟩
  obtain ⟨seen, ⟨e', he', hreads⟩, hpart⟩ := hseen part
  have hmem : e' ∈ before := (List.takeWhile_sublist _).subset he'
  exact (hworld'.has_of_read ⟨e', hmem, seen, hreads, hpart⟩).2 last hlast

/-! ## Two runs from the beginning to the end -/

namespace Rehearsed

open Regressed

/-- Nothing is published. -/
def unpublished : PublicState where
  mainCommit := intent.priorMainCommit
  versionTagObject := none
  release := none
  versionDigest := none
  latestDigest := none
  lock := none

/-- The lock behind a call. -/
def lockAfter (state : PublicState) : AdapterCall → Option LockObservation
  | .createLockRef _ => some ⟨lockSha, lockSha256⟩
  | .removeLockExact _ => none
  | _ => state.lock

/-- The state behind a history of which every call takes effect when it returns. -/
def stateAfter : List PublicationEvent → PublicState
  | [] => unpublished
  | .called call (.ok _) :: before =>
    { call.effect intent (stateAfter before) with lock := lockAfter (stateAfter before) call }
  | _ :: before => stateAfter before

/-- Nothing is under a reference of the registry. -/
def nothing : RegistryProbeObservation := ⟨none, none, none⟩

/-- What the registry has under a reference; the first manifest of the second probe has an entity tag of its
    own. -/
def probeAfter (reference : Text) : List PublicationEvent → RegistryProbeObservation
  | [] => nothing
  | .called (.putRegistryProbe operation reference' manifest _ _) (.ok result) :: before =>
    if reference' = reference ∧ result.status = 201 then
      ⟨some manifest.digest,
        some (if operation = text "registry_latest_probe_seed" then text "\"\"" else winnerEtag),
        some manifest.payload⟩
    else probeAfter reference before
  | _ :: before => probeAfter reference before

/-- A conditional write to the registry. -/
def putProbe (present : RegistryProbeObservation) (manifest : RegistryManifest) (ifNoneMatch : Bool)
    (ifMatch : Option Text) : RegistryProbeWrite :=
  if (ifNoneMatch = true ∧ present ≠ nothing) ∨ (ifMatch.isSome = true ∧ ifMatch ≠ present.etag) then
    ⟨412, none⟩
  else ⟨201, some manifest.digest⟩

/-- Whether some contents were put into the registry. -/
def stored (digest : Text) : List PublicationEvent → Bool
  | [] => false
  | .called (.finishRegistryBlobUpload blob _) _ :: before => blob.digest = digest || stored digest before
  | .called (.putRegistryManifest manifest) _ :: before => manifest.digest = digest || stored digest before
  | _ :: before => stored digest before

/-- A host on which every call takes effect. If `moved`, somebody else moves `main` back when `latest` has been
    updated. -/
def answer (moved : Bool) (history : List PublicationEvent) :
    (call : AdapterCall) → Except PublicationRaised call.Answer
  | .verifyLocalSources => .ok sources
  | .fetchAllActionsRunIds => .ok []
  | .readPublicState _ => .ok
      (if moved = true ∧ history.any (·.updatesLatest) = true then
        { stateAfter history with mainCommit := intent.priorMainCommit }
      else stateAfter history)
  | .registryBlobPresent blob => .ok (stored blob.digest history)
  | .registryManifestPresent manifest => .ok (stored manifest.digest history)
  | .readRegistryProbe reference => .ok (probeAfter reference history)
  | .putRegistryProbe _ reference manifest ifNoneMatch ifMatch =>
    .ok (putProbe (probeAfter reference history) manifest ifNoneMatch ifMatch)
  | .anonymousPullSmoke _ => .ok intent.image
  | .createLockObject _ => .ok (.str lockSha)
  | .createVersionTagObject => .ok (.str intent.annotatedTag.objectSha)
  | .startRegistryBlobUpload _ => .ok (.str (text "/1"))
  | .assertLock .. | .removeLockExact _ | .createLockRef _ | .advanceMain | .createVersionTagRef
  | .finishRegistryBlobUpload .. | .putRegistryManifest _ | .conditionalCreateVersion | .createRelease
  | .updateLatest _ => .ok ()

/-- The first run of a journal, from nothing to the removal of the lock. -/
def publisher (moved : Bool) : Publisher := { Regressed.publisher with answer := answer moved }

/-- The history of the rehearsal, in which `latest` is moved back or not. -/
def history (moved : Bool) : List PublicationEvent :=
  (Procedure.after ((publisher moved).publish intent none) ⟨checkpoint, []⟩).history

/-- It is a history of the publisher. -/
theorem journalHistory (moved : Bool) : JournalHistory interpreter hash intent (history moved) :=
  .run (publisher moved) checkpoint .nil rfl rfl List.mem_cons_self List.nil_suffix (List.suffix_refl _)

/-- Whether what was read is the state behind what happened before. -/
def faithful : List PublicationEvent → Bool
  | [] => true
  | e :: before => e.reads.all (· = stateAfter before) && faithful before

/-- A world whose readings are what has been written is one that nobody else writes to. -/
theorem publicWorld_of_faithful {history : List PublicationEvent} (h : faithful history = true) :
    PublicWorld intent history (stateAfter history) := by
  induction history with
  | nil => exact .start _
  | cons e before ih =>
    obtain ⟨hreads, hbefore⟩ := Bool.and_eq_true_iff.1 h
    have hevent : PublicWorld intent (e :: before) (stateAfter before) := by
      refine .event e (ih hbefore) fun seen hseen => ?_
      rw [hseen] at hreads
      exact of_decide_eq_true hreads
    rcases e with ⟨call, _ | a⟩ | _
    · exact hevent
    · exact .lock _ (.effect hevent List.mem_cons_self)
    · exact hevent

/-- The state that was read last when the lock was removed. -/
def readAtRemoval : List PublicationEvent → Option (Option PublicState)
  | [] => none
  | e :: before => if e.removesLock then some (lastRead before) else readAtRemoval before

/-- What holds whenever the lock is removed holds of the reading before the removal that is computed. -/
theorem of_readAtRemoval {history : List PublicationEvent} {last : Option PublicState}
    {Q : Option PublicState → Prop}
    (h : Each (fun e => e.removesLock = true) (fun _ _ before => Q (lastRead before)) history)
    (hlast : readAtRemoval history = some last) : Q last := by
  induction history with
  | nil => cases hlast
  | cons e before ih =>
    obtain ⟨he, hbefore⟩ := each_cons_iff.1 h
    rw [readAtRemoval] at hlast
    split at hlast
    · next hremoves => exact Option.some.inj hlast ▸ he hremoves
    · exact ih hbefore hlast

/-- Both runs update `latest` and remove the lock; only in the second one `main` is not at the release then. -/
theorem history_eq :
    ((history false).countP (·.updatesLatest) = 1 ∧ (history false).countP (·.removesLock) = 1 ∧
      faithful (history false) = true) ∧
    (readAtRemoval (history true)).map (·.map (·.mainCommit)) = some (some intent.priorMainCommit) := by
  decide +kernel

end Rehearsed

open Rehearsed Regressed in
/-- The run of a journal that nobody disturbs updates `latest`, removes the lock, and has read the final state
    before it does. -/
theorem writes_in_order_undisturbed :
    (history false).countP (·.updatesLatest) = 1 ∧ (history false).countP (·.removesLock) = 1 ∧
    Each (fun e => e.isWrite = true) (fun _ => Announced intent) (history false) ∧
    (history false).countP (·.updatesLatest) ≤ 1 ∧
    Each (fun e => e.createsVersion = true) (fun _ _ => Proven (·.Verified .create)) (history false) ∧
    Each (fun e => e.updatesLatest = true)
      (fun _ _ => Proven fun c => c.Verified .cas ∧ isNone c.anonymousSmokeSha256 = false) (history false) ∧
    Each (fun e => e.removesLock = true) (fun _ _ => Cleared interpreter hash intent) (history false) ∧
    Each (fun e => e.removesLock = true)
      (fun _ _ before => ∃ last, lastRead before = some last ∧ FullyPublished intent last) (history false) := by
  obtain ⟨⟨hupdates, hremoves, hfaithful⟩, -⟩ := history_eq
  obtain ⟨hannounced, honce, hversion, hlatest, hremoval, hfinal⟩ := writes_in_order (journalHistory false)
  exact ⟨hupdates, hremoves, hannounced, honce, hversion, hlatest, hremoval,
    hfinal _ (publicWorld_of_faithful hfaithful)⟩

open Rehearsed Regressed in
/-- The lock is removed although `main` is not at the release in the state that was read last: it was, when its
    own step compared it. -/
theorem not_removed_in_final_state : ¬ ∀ (I : Interpreter) (hash : List ℕ → Text) (intent : ReleaseIntent)
    (history : List PublicationEvent), JournalHistory I hash intent history →
      Each (fun e => e.isWrite = true) (fun _ => Announced intent) history ∧
      history.countP (·.updatesLatest) ≤ 1 ∧
      Each (fun e => e.createsVersion = true) (fun _ _ => Proven (·.Verified .create)) history ∧
      Each (fun e => e.updatesLatest = true)
        (fun _ _ => Proven fun c => c.Verified .cas ∧ isNone c.anonymousSmokeSha256 = false) history ∧
      Each (fun e => e.removesLock = true) (fun _ _ before =>
        (∃ last, lastRead before = some last ∧ FullyPublished intent last) ∧ Reverified I hash intent before)
        history := by
  intro h
  obtain ⟨-, -, -, -, hremoval⟩ := h interpreter hash intent (history true) (journalHistory true)
  obtain ⟨-, hread⟩ := history_eq
  obtain ⟨last, hlast, hread⟩ := Option.map_eq_some_iff.1 hread
  have hfinal : ∃ state, last = some state ∧ FullyPublished intent state :=
    of_readAtRemoval (Q := fun last => ∃ state, last = some state ∧ FullyPublished intent state)
      (fun after e before heq he => (hremoval after e before heq he).1) hlast
  obtain ⟨state, rfl, hpublished⟩ := hfinal
  have hmain : state.has intent .main = true := fullyPublished_iff.1 hpublished .main
  have hprior : state.mainCommit = intent.priorMainCommit := Option.some.inj hread
  rw [PublicState.has, hprior] at hmain
  exact absurd hmain (by decide +kernel)

end Subgen

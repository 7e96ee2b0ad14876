import Subgen.Publication.Publish

/-!
# When a publication is recorded as complete

A recovery records that a publication is complete if the state that it has read is the final one. The last
step of a run looks at the state only after it has recorded that, so that the record is right in just those
runs in which nobody changed the state while the lock was removed (`StaysFinal`).

The proof goes through the procedures of the publisher from the inside out. Each of them either belongs to the
*early* part of a run, in which nothing is recorded as complete and no lock is removed (`Early`), or it is one
of the few steps behind it. What a procedure leaves behind is said by `Leads`: starting from a history that is
unfinished, it ends with one that is unfinished, or it has raised and left one in which the record is right.
`Leads` composes along `>>=`, so that a procedure of the source has a lemma of a few lines for each of its
public writes, and the end of the publication (`ensures_publish`) puts them together.

* `Leads`: what a procedure of the publisher leaves of a run that has recorded neither;
* `Judged`: what a run is about when it is over;
* `completes_final_iff`: the runs whose record of the completion is right;
* `completes_regressed`: a run in which `latest` was moved back between the last read and the record, with
  the digests of real manifests, so that every check of the source is passed.
-/

namespace Subgen

open Procedure

/-! ## Histories -/

/-- The state that was read last. -/
def lastRead : List PublicationEvent → Option PublicState
  | [] => none
  | .called (.readPublicState _) (.ok state) :: _ => some state
  | _ :: before => lastRead before

/-- The checkpoint that was appended last. -/
def lastAppended : List PublicationEvent → Option PublicationCheckpoint
  | [] => none
  | .appended c _ :: _ => some c
  | .called _ _ :: before => lastAppended before

/-- Whenever a checkpoint that is complete is appended, the state that was read last is the final one. -/
def CompletesFinal (intent : ReleaseIntent) (history : List PublicationEvent) : Prop :=
  ∀ c durable before, .appended c durable :: before <:+ history → c.phase = text "complete" →
    (lastRead before).any (isFinalState · intent) = true

/-- Whenever the state is read after the removal of the lock, and the lock is gone, it is the final one. -/
def StaysFinal (intent : ReleaseIntent) (history : List PublicationEvent) : Prop :=
  ∀ document state before, .called (.readPublicState document) (.ok state) :: before <:+ history →
    (lastAppended before).map (·.phase) = some (text "lock_ref_remove_written") →
    validatePublicComponents state intent = .ok () → state.lock = none → isFinalState state intent = true

/-- The two phases at the end of a publication. -/
def lastPhases : List Text := [text "lock_ref_remove_written", text "complete"]

/-- No checkpoint of the end has been appended. -/
def Unfinished (history : List PublicationEvent) : Prop :=
  ∀ c durable, PublicationEvent.appended c durable ∈ history → c.phase ∉ lastPhases

section

variable {intent : ReleaseIntent} {history : List PublicationEvent} {c : PublicationCheckpoint} {durable : Bool}

/-- A call of the adapter records nothing. -/
theorem Unfinished.called (h : Unfinished history) (call : AdapterCall) (result : Except PublicationRaised call.Answer) :
    Unfinished (.called call result :: history) := by
  intro c durable hmem
  rcases List.mem_cons.1 hmem with heq | hmem
  · cases heq
  · exact h c durable hmem

/-- A checkpoint of another phase may be appended. -/
theorem Unfinished.appended (h : Unfinished history) (hphase : c.phase ∉ lastPhases) :
    Unfinished (.appended c durable :: history) := by
  intro c' durable' hmem
  rcases List.mem_cons.1 hmem with heq | hmem
  · obtain ⟨rfl, rfl⟩ := PublicationEvent.appended.inj heq
    exact hphase
  · exact h c' durable' hmem

/-- What has not been recorded as complete has not been recorded wrongly. -/
theorem Unfinished.completesFinal (h : Unfinished history) : CompletesFinal intent history := by
  intro c durable before hsuffix hphase
  have hnot := h c durable (hsuffix.subset List.mem_cons_self)
  rw [hphase] at hnot
  exact absurd (List.mem_cons_of_mem _ List.mem_cons_self) hnot

/-- The last checkpoint is one of those that were appended. -/
theorem mem_of_lastAppended {before : List PublicationEvent} (h : lastAppended before = some c) :
    ∃ durable, PublicationEvent.appended c durable ∈ before := by
  induction before with
  | nil => cases h
  | cons e before ih =>
    rcases e with ⟨call, result⟩ | ⟨c', durable⟩
    · obtain ⟨durable, hmem⟩ := ih h
      exact ⟨durable, List.mem_cons_of_mem _ hmem⟩
    · obtain rfl := Option.some.inj h
      exact ⟨durable, List.mem_cons_self⟩

/-- Without the removal of the lock nothing is asked of the states that were read. -/
theorem Unfinished.staysFinal (h : Unfinished history) : StaysFinal intent history := by
  intro document state before hsuffix hlast
  obtain ⟨c, hc, hphase⟩ := Option.map_eq_some_iff.1 hlast
  obtain ⟨durable, hmem⟩ := mem_of_lastAppended hc
  have hnot := h c durable (hsuffix.subset (List.mem_cons_of_mem _ hmem))
  rw [hphase] at hnot
  exact absurd List.mem_cons_self hnot

/-- What is read after the last event. -/
theorem staysFinal_appended : StaysFinal intent (.appended c durable :: history) ↔ StaysFinal intent history := by
  constructor
  · intro h document state before hsuffix
    exact h document state before (hsuffix.trans (List.suffix_cons _ _))
  · intro h document state before hsuffix
    rcases List.suffix_cons_iff.1 hsuffix with heq | hsuffix
    · cases heq
    · exact h document state before hsuffix

/-- A call does not bear on the records before it. -/
theorem completesFinal_called {call : AdapterCall} {result : Except PublicationRaised call.Answer} :
    CompletesFinal intent (.called call result :: history) ↔ CompletesFinal intent history := by
  constructor
  · intro h c durable before hsuffix
    exact h c durable before (hsuffix.trans (List.suffix_cons _ _))
  · intro h c durable before hsuffix
    rcases List.suffix_cons_iff.1 hsuffix with heq | hsuffix
    · cases heq
    · exact h c durable before hsuffix

/-- A call that failed has read no state. -/
theorem staysFinal_error {call : AdapterCall} {e : PublicationRaised} :
    StaysFinal intent (.called call (.error e) :: history) ↔ StaysFinal intent history := by
  constructor
  · intro h document state before hsuffix
    exact h document state before (hsuffix.trans (List.suffix_cons _ _))
  · intro h document state before hsuffix
    rcases List.suffix_cons_iff.1 hsuffix with heq | hsuffix
    · obtain ⟨hevent, -⟩ := List.cons.inj heq
      obtain ⟨hcall, hresult⟩ := PublicationEvent.called.inj hevent
      cases hcall
      cases hresult
    · exact h document state before hsuffix

/-- A new checkpoint is judged by the state that was read last. -/
theorem completesFinal_appended : CompletesFinal intent (.appended c durable :: history) ↔
    (c.phase = text "complete" → (lastRead history).any (isFinalState · intent) = true) ∧
      CompletesFinal intent history := by
  constructor
  · intro h
    exact ⟨h c durable history (List.suffix_refl _), fun c durable before hsuffix =>
      h c durable before (hsuffix.trans (List.suffix_cons _ _))⟩
  · rintro ⟨hhead, h⟩ c' durable' before hsuffix
    rcases List.suffix_cons_iff.1 hsuffix with heq | hsuffix
    · obtain ⟨hevent, rfl⟩ := List.cons.inj heq
      obtain ⟨rfl, rfl⟩ := PublicationEvent.appended.inj hevent
      exact hhead
    · exact h c' durable' before hsuffix

/-- A new state is judged by the checkpoint that was appended last. -/
theorem staysFinal_read {document : Json} {state : PublicState} :
    StaysFinal intent (.called (.readPublicState document) (.ok state) :: history) ↔
      ((lastAppended history).map (·.phase) = some (text "lock_ref_remove_written") →
        validatePublicComponents state intent = .ok () → state.lock = none →
        isFinalState state intent = true) ∧ StaysFinal intent history := by
  constructor
  · intro h
    exact ⟨h document state history (List.suffix_refl _), fun document state before hsuffix =>
      h document state before (hsuffix.trans (List.suffix_cons _ _))⟩
  · rintro ⟨hhead, h⟩ document' state' before hsuffix
    rcases List.suffix_cons_iff.1 hsuffix with heq | hsuffix
    · obtain ⟨hevent, rfl⟩ := List.cons.inj heq
      obtain ⟨hcall, hresult⟩ := PublicationEvent.called.inj hevent
      cases hcall
      cases hresult
      exact hhead
    · exact h document' state' before hsuffix

/-! ## Phases and operations -/

/-- A phase of before the end. -/
def Early (phase : Text) : Prop := phase ∉ lastPhases

/-- Phases that are recorded as they are. -/
def earlyPhases : List Text :=
  [text "registry_version_probe_seed_armed", text "registry_version_probe_reject_armed",
   text "registry_version_probe_verified", text "registry_latest_probe_seed_armed",
   text "registry_latest_probe_cas_armed", text "registry_latest_probe_stale_armed",
   text "registry_latest_probe_verified", text "prepared", text "lock_ref_create_reconciled",
   text "anonymous_pull_smoke_verified", text "registry_latest_outcome_unresolved",
   text "registry_latest_update_armed"]

/-- The ends of the others. -/
def earlyEnds : List Text :=
  [text "_pending", text "_blocked_before_write", text "_ambiguous", text "_probe_planned"]

/-- The public writes, except for the last one. -/
def earlyOperations : List Text :=
  [text "registry_version_probe_seed", text "registry_version_probe_reject",
   text "registry_latest_probe_cas", text "registry_latest_probe_seed",
   text "registry_latest_probe_stale", text "lock_object_create", text "lock_ref_create",
   text "main_fast_forward", text "version_tag_object_create", text "version_tag_ref_create",
   text "registry_version_conditional_create", text "github_release_create",
   text "registry_latest_update"]

/-- The beginnings of those that are numbered. -/
def earlyBeginnings : List Text := [text "registry_blob_", text "registry_manifest_"]

/-- The phases that are written out in the source are early. -/
theorem earlyPhases_early : ∀ phase ∈ earlyPhases, Early phase := by
  unfold Early
  decide +kernel

/-- None of the last phases ends like the phase of an operation that is not the removal. -/
theorem earlyEnds_not_suffix : ∀ behind ∈ earlyEnds, ∀ phase ∈ lastPhases, ¬ behind <:+ phase := by
  decide +kernel

/-- None of the operations with a name of their own removes the lock. -/
theorem earlyOperations_ne : ∀ operation ∈ earlyOperations, operation ≠ text "lock_ref_remove" := by
  decide +kernel

/-- An operation with an index or a kind in its name does not remove the lock. -/
theorem earlyBeginnings_not_prefix : ∀ before ∈ earlyBeginnings, ¬ before <+: text "lock_ref_remove" := by
  decide +kernel

/-- The phase behind the removal of the lock is one of the last two, and not the other one. -/
theorem written_remove : text "lock_ref_remove_written" = text "lock_ref_remove" ++ text "_written" ∧
    ¬ text "_written" <:+ text "complete" := by
  decide +kernel

/-! ## What a procedure leaves -/

/-- The end has not been reached, and the checkpoint is in a phase of `p`. -/
structure At (p : Text → Prop) (s : PublicationRun) : Prop where
  unfinished : Unfinished s.history
  phase : p s.checkpoint.phase

/-- No condition on the phase. -/
def anyPhase (_ : Text) : Prop := True

/-- A procedure that starts in a phase of `p` returns in one of `q`, and does not reach the end. -/
def Leads {α : Type} (p q : Text → Prop) (m : Publish α) : Prop :=
  ∀ s, At p s → Ensures m s (fun _ => At q) (fun _ s' => Unfinished s'.history)

section Leads

variable {α β : Type} {p q r : Text → Prop} {m n : Publish α} {f : α → Publish β} {s : PublicationRun}

/-- Nothing happens. -/
theorem leads_pure (a : α) : Leads p p (pure a : Publish α) := fun _ hs => hs

/-- An exception leaves the run as it is. -/
theorem leads_throw (e : PublicationRaised) : Leads p q (throw e : Publish α) := fun _ hs => hs.unfinished

/-- What comes behind such a procedure starts in a run that has recorded neither. -/
theorem Leads.ensures_bind {Q : β → PublicationRun → Prop} {E : PublicationRaised → PublicationRun → Prop} (hm : Leads p q m)
    (hs : At p s) (hE : ∀ e s', Unfinished s'.history → E e s')
    (hf : ∀ a s', At q s' → Ensures (f a) s' Q E) : Ensures (m >>= f) s Q E := by
  rw [Procedure.ensures_bind]
  exact (hm s hs).mono hf hE

/-- One procedure after the other. -/
theorem Leads.bind (hm : Leads p q m) (hf : ∀ a, Leads q r (f a)) : Leads p r (m >>= f) :=
  fun _ hs => hm.ensures_bind hs (fun _ _ h => h) hf

/-- What is looked at of the run makes no difference. -/
theorem leads_get_bind {f : PublicationRun → Publish β} (hf : ∀ s, Leads p q (f s)) : Leads p q (get >>= f) :=
  fun s hs => Procedure.ensures_bind.2 (hf s s hs)

/-- Each of the two branches. -/
theorem Leads.ite {P : Prop} [Decidable P] (hm : Leads p q m) (hn : Leads p q n) :
    Leads p q (if P then m else n) := by
  by_cases h : P
  · rwa [if_pos h]
  · rwa [if_neg h]

/-- More may be known of the phase before, and less be asked of it behind. -/
theorem Leads.mono {p' q' : Text → Prop} (h : Leads p q m) (hp : ∀ t, p' t → p t) (hq : ∀ t, q t → q' t) :
    Leads p' q' m := fun s hs =>
  (h s ⟨hs.1, hp _ hs.2⟩).mono (fun _ _ hs' => ⟨hs'.1, hq _ hs'.2⟩) fun _ _ hs' => hs'

/-- What is known of the phase behind may be forgotten. -/
theorem Leads.any (h : Leads p q m) : Leads p anyPhase m := h.mono (fun _ ht => ht) fun _ _ => trivial

/-- What is known of a call that may raise is that the end was not reached. -/
theorem Leads.attempt (h : Leads p q m) : Leads p anyPhase (attempt m) := fun s hs =>
  ensures_attempt.2 ((h s hs).mono (fun _ _ hs' => ⟨hs'.1, trivial⟩) fun _ _ hs' => ⟨hs', trivial⟩)

/-- The handler starts wherever the procedure may have raised. -/
theorem Leads.tryCatch {handler : PublicationRaised → Publish α} (hm : Leads p q m)
    (hhandler : ∀ e, Leads anyPhase q (handler e)) : Leads p q (tryCatch m handler) := fun s hs =>
  ensures_tryCatch.2 ((hm s hs).mono (fun _ _ hs' => hs') fun e s' hs' => hhandler e s' ⟨hs', trivial⟩)

/-- A loop, one round of which keeps what is known of the phase. -/
theorem leads_forM {l : List α} {f : α → Publish Unit} (h : ∀ a ∈ l, Leads p p (f a)) : Leads p p (l.forM f) := by
  induction l with
  | nil => exact leads_pure _
  | cons a l ih =>
    change Leads p p (f a >>= fun _ => l.forM f)
    exact (h a List.mem_cons_self).bind fun _ => ih fun b hb => h b (List.mem_cons_of_mem _ hb)

end Leads

namespace Publisher

variable {P : Publisher} {α : Type} {p q : Text → Prop} {s : PublicationRun}

/-- A call of the adapter appends nothing. -/
theorem leads_ask (call : AdapterCall) : Leads p p (P.ask call) := by
  intro s hs
  rw [Ensures, ask]
  rcases P.answer s.history call with e | a
  · exact hs.unfinished.called call _
  · exact ⟨hs.unfinished.called call _, hs.phase⟩

/-- A check appends nothing. -/
theorem leads_lift (x : Except LoadError α) : Leads p p (lift x) := by
  rcases x with e | a
  · exact leads_throw _
  · exact leads_pure a

/-- A check that stops the run appends nothing. -/
theorem leads_stopIf (c : Prop) [Decidable c] (code : String) : Leads p p (stopIf c code) := leads_lift _

/-- What is known behind a check that stops the run: that it did not. -/
theorem ensures_stopIf {c : Prop} [Decidable c] {code : String} {Q : Unit → PublicationRun → Prop}
    {E : PublicationRaised → PublicationRun → Prop} :
    Ensures (stopIf c code) s Q E ↔ (c → E (.blocked (text code)) s) ∧ (¬ c → Q () s) := by
  rw [stopIf, blockIf]
  by_cases h : c
  · rw [if_pos h]
    exact ⟨fun hE => ⟨fun _ => hE, fun hnot => absurd h hnot⟩, fun hboth => hboth.1 h⟩
  · rw [if_neg h]
    exact ⟨fun hQ => ⟨fun hc => absurd hc h, fun _ => hQ⟩, fun hboth => hboth.2 h⟩

/-- A token that is made up is not recorded yet. -/
theorem leads_fresh (factory : List PublicationEvent → Except PublicationRaised Text) : Leads p p (fresh factory) := by
  intro s hs
  rw [Ensures, fresh]
  rcases factory s.history with e | t
  · exact hs.unfinished
  · exact hs

/-- The checkpoint is changed in memory, its phase perhaps too. -/
theorem leads_update {f : PublicationCheckpoint → PublicationCheckpoint}
    (h : ∀ c, p c.phase → q (f c).phase) : Leads p q (update f) :=
  fun s hs => ⟨hs.unfinished, h s.checkpoint hs.phase⟩

/-- A checkpoint of an early phase may be recorded. -/
theorem leads_record (h : ∀ t, p t → Early t) : Leads p p P.record := by
  intro s hs
  rw [Ensures, record]
  rcases P.append s.history s.checkpoint with e | ⟨sequence, previous⟩
  · exact hs.unfinished.appended (h _ hs.phase)
  · exact ⟨hs.unfinished.appended (h _ hs.phase), hs.phase⟩

/-- A phase is set and recorded. -/
theorem leads_update_record {f : PublicationCheckpoint → PublicationCheckpoint} (h : ∀ c, Early (f c).phase) :
    Leads p Early (do update f; P.record) :=
  (leads_update fun c _ => h c).bind fun _ => leads_record fun _ ht => ht

/-- So may a failure in an early phase. -/
theorem leads_recordFailure {phase failureCode : Text} (h : Early phase) :
    Leads p Early (P.recordFailure phase failureCode) :=
  leads_update_record fun _ => h

/-- The readings of the runs of the actions record nothing. -/
theorem leads_actionsSnapshot : Leads p p P.actionsSnapshot :=
  (leads_ask _).bind fun _ => leads_lift _

/-- Nor does their comparison. -/
theorem leads_assertActionsUnchanged : Leads p p P.assertActionsUnchanged :=
  leads_actionsSnapshot.bind fun _ => leads_get_bind fun _ => leads_stopIf _ _

/-- Nor does a reading of the public state. -/
theorem leads_readState (intent : ReleaseIntent) : Leads p p (P.readState intent) :=
  leads_get_bind fun _ => (leads_ask _).bind fun _ => (leads_lift _).bind fun _ => leads_pure _

/-- Nor does the check of the lock. -/
theorem leads_requireLock : Leads p p P.requireLock :=
  leads_get_bind fun _ => (leads_stopIf _ _).bind fun _ => leads_ask _

/-! ## One public write -/

/-- The phase of an operation that ends in another way is early. -/
theorem early_append {operation behind : Text} (h : behind ∈ earlyEnds) : Early (operation ++ behind) :=
  fun hmem => earlyEnds_not_suffix behind h _ hmem ⟨operation, rfl⟩

/-- The phase behind a write is early, unless the write removes the lock. -/
theorem early_written {operation : Text} (h : operation ≠ text "lock_ref_remove") :
    Early (operation ++ text "_written") := by
  intro hmem
  rcases List.mem_cons.1 hmem with heq | hmem
  · rw [written_remove.1] at heq
    exact h (List.append_cancel_right heq)
  · exact written_remove.2 ⟨operation, List.mem_singleton.1 hmem⟩

/-- What is recorded before a write is early. -/
theorem leads_precondition (operation : Text) : Leads p p (P.precondition operation) :=
  leads_assertActionsUnchanged.bind fun _ => (leads_pure _).ite leads_requireLock

/-- What is recorded last by a public write that reaches its end. -/
def Written (operation : Text) (durable : Bool) (history : List PublicationEvent) : Prop :=
  ∃ c before, history = .appended c durable :: before ∧ Unfinished before ∧
    c.phase = operation ++ text "_written"

/-- A write records itself at last, or the run raises before that. If it is the removal of the lock, the
    phase is the first one of the last two. -/
theorem ensures_publicWrite {operation : Text} {call : AdapterCall} (hs : Unfinished s.history) :
    Ensures (P.publicWrite operation call) s
      (fun _ s' => Written operation true s'.history ∧ s'.checkpoint.phase = operation ++ text "_written")
      (fun _ s' => Unfinished s'.history ∨ Written operation false s'.history) := by
  have hpending : Early (operation ++ text "_pending") := early_append (by simp [earlyEnds])
  have hblocked : Early (operation ++ text "_blocked_before_write") := early_append (by simp [earlyEnds])
  have hambiguous : Early (operation ++ text "_ambiguous") := early_append (by simp [earlyEnds])
  have hunfinished : ∀ (e : PublicationRaised) (s' : PublicationRun), Unfinished s'.history →
      Unfinished s'.history ∨ Written operation false s'.history := fun _ _ => Or.inl
  have hstart : At anyPhase s := ⟨hs, trivial⟩
  unfold publicWrite
  refine (leads_update fun _ _ => hpending).ensures_bind hstart hunfinished fun _ s₁ hs₁ => ?_
  refine (leads_record fun _ ht => ht).ensures_bind hs₁ hunfinished fun _ s₂ hs₂ => ?_
  refine Leads.ensures_bind (Leads.tryCatch (leads_precondition operation) fun e =>
    (leads_recordFailure hblocked).bind fun _ => leads_throw e) hs₂ hunfinished fun _ s₃ hs₃ => ?_
  refine (leads_ask call).attempt.ensures_bind hs₃ hunfinished fun result s₄ hs₄ => ?_
  refine leads_assertActionsUnchanged.attempt.ensures_bind hs₄ hunfinished fun actions s₅ hs₅ => ?_
  rcases actions with _ | _
  · exact (leads_recordFailure hambiguous).ensures_bind hs₅ hunfinished fun _ s₆ hs₆ => .inl hs₆.unfinished
  rcases result with _ | answer
  · exact (leads_recordFailure hambiguous).ensures_bind hs₅ hunfinished fun _ s₆ hs₆ => .inl hs₆.unfinished
  · rw [ensures_bind, Publisher.update, ensures_modify, ensures_bind, Ensures, record]
    split
    · next happended =>
      split at happended
      · obtain ⟨rfl, rfl⟩ := EStateM.Result.ok.inj happended
        exact ⟨⟨_, _, rfl, hs₅.unfinished, rfl⟩, rfl⟩
      · cases happended
    · next happended =>
      split at happended
      · cases happended
      · obtain ⟨rfl, rfl⟩ := EStateM.Result.error.inj happended
        exact .inr ⟨_, _, rfl, hs₅.unfinished, rfl⟩

/-- Another write leaves a run that has recorded neither. -/
theorem leads_publicWrite {operation : Text} (h : operation ≠ text "lock_ref_remove") (call : AdapterCall) :
    Leads p Early (P.publicWrite operation call) := by
  intro s hs
  refine (ensures_publicWrite hs.unfinished).mono ?_ ?_
  · rintro _ s' ⟨⟨c, before, hhistory, hbefore, hphase⟩, hcurrent⟩
    refine ⟨?_, hcurrent ▸ early_written h⟩
    rw [hhistory]
    exact hbefore.appended (hphase ▸ early_written h)
  · rintro _ s' (hunfinished | ⟨c, before, hhistory, hbefore, hphase⟩)
    · exact hunfinished
    · rw [hhistory]
      exact hbefore.appended (hphase ▸ early_written h)

/-! ## Evidence and probes -/

/-- A retained probe is read and compared, and nothing is recorded. -/
theorem leads_verifyRetainedProbe (intent : ReleaseIntent) (kind : ProbeKind) :
    Leads p p (P.verifyRetainedProbe intent kind) := by
  refine leads_get_bind fun s => ?_
  split
  · exact leads_throw _
  · refine (leads_lift _).bind fun manifests => ?_
    refine ((leads_throw _).ite (leads_pure _)).bind fun _ => ?_
    split
    · exact (leads_ask _).bind fun _ => (leads_lift _).bind fun _ => (leads_stopIf _ _).bind fun _ =>
        leads_stopIf _ _
    · exact (leads_ask _).bind fun _ => (leads_lift _).bind fun _ => (leads_stopIf _ _).bind fun _ =>
        leads_stopIf _ _
    · exact leads_throw _

/-- Both of the retained probes. -/
theorem leads_verifyCompletionEvidence (intent : ReleaseIntent) :
    Leads p p (P.verifyCompletionEvidence intent) :=
  (leads_lift _).bind fun _ => leads_get_bind fun _ => (leads_stopIf _ _).bind fun _ =>
    (leads_verifyRetainedProbe intent .create).bind fun _ => leads_verifyRetainedProbe intent .cas

/-- The receipt of a probe is recorded under an early phase. -/
theorem leads_recordProbe {kind : ProbeKind} {receipt : RegistryProbeReceipt} {phase : Text}
    (h : Early phase) : Leads p Early (P.recordProbe kind receipt phase) :=
  leads_update_record fun _ => h

/-- A receipt is made, or taken from the checkpoint. -/
theorem leads_prepareProbeReceipt (intent : ReleaseIntent) (kind : ProbeKind) :
    Leads p anyPhase (P.prepareProbeReceipt intent kind) := by
  refine leads_get_bind fun s => ?_
  split
  · refine (leads_fresh _).bind fun token => (leads_lift _).bind fun materials => ?_
    refine ((leads_recordProbe (p := p) ?_).bind fun _ => leads_pure _).any
    exact early_append (by simp [earlyEnds])
  · exact ((leads_lift _).bind fun _ => leads_pure _).any

/-- A probe is observed, under any of its manifests. -/
theorem leads_observeProbe (receipt : RegistryProbeReceipt)
    (candidates : List (ProbeLabel × RegistryManifest)) : Leads p p (P.observeProbe receipt candidates) :=
  (leads_ask _).bind fun _ => (leads_lift _).bind fun _ => leads_pure _

/-- A probe is armed before its first manifest is written. -/
theorem leads_armSeed {kind : ProbeKind} {receipt : RegistryProbeReceipt} {observed : Option ProbeLabel}
    {phase : Text} {code : String} (h : Early phase) :
    Leads p anyPhase (P.armSeed kind receipt observed phase code) :=
  Leads.ite ((leads_stopIf _ _).bind fun _ => (leads_recordProbe h).bind fun _ => leads_pure _).any
    (leads_pure _).any

/-- The manifest that has to win is written, and read back. -/
theorem leads_winProbe {operation : Text} (h : operation ≠ text "lock_ref_remove")
    (receipt : RegistryProbeReceipt) (manifest : RegistryManifest) (ifNoneMatch : Bool) (ifMatch : Option Text)
    (candidates : List (ProbeLabel × RegistryManifest)) :
    Leads p anyPhase (P.winProbe operation receipt manifest ifNoneMatch ifMatch candidates) :=
  leads_requireLock.bind fun _ => (leads_publicWrite h _).bind fun _ => (leads_lift _).bind fun _ =>
    (leads_observeProbe _ _).any

/-- The manifest that has to lose is written, and the winner read back. -/
theorem leads_rejectProbe (intent : ReleaseIntent) (kind : ProbeKind) {operation phase : Text}
    (h : operation ≠ text "lock_ref_remove") (hphase : Early phase) (receipt : RegistryProbeReceipt)
    (manifests : List RegistryManifest) (winner rejected : RegistryManifest) (ifNoneMatch : Bool)
    (ifMatch : Option Text) : Leads p anyPhase
      (P.rejectProbe intent kind operation phase receipt manifests winner rejected ifNoneMatch ifMatch) :=
  (leads_ask _).bind fun _ => (leads_lift _).bind fun _ => (leads_stopIf _ _).bind fun _ =>
    (leads_stopIf _ _).bind fun _ => leads_requireLock.bind fun _ => (leads_publicWrite h _).bind fun _ =>
    (leads_lift _).bind fun _ => (leads_ask _).bind fun _ => (leads_lift _).bind fun _ =>
    (leads_stopIf _ _).bind fun _ => (leads_lift _).bind fun _ => (leads_recordProbe hphase).any

/-- The probe of a tag that is created once. -/
theorem leads_runVersionCreateProbe (intent : ReleaseIntent) :
    Leads p anyPhase (P.runVersionCreateProbe intent) := by
  have hseed : text "registry_version_probe_seed" ≠ text "lock_ref_remove" := earlyOperations_ne _ (by simp [earlyOperations])
  have hreject : text "registry_version_probe_reject" ≠ text "lock_ref_remove" := earlyOperations_ne _ (by simp [earlyOperations])
  have hseedArmed : Early (text "registry_version_probe_seed_armed") := earlyPhases_early _ (by simp [earlyPhases])
  have hrejectArmed : Early (text "registry_version_probe_reject_armed") := earlyPhases_early _ (by simp [earlyPhases])
  have hverified : Early (text "registry_version_probe_verified") := earlyPhases_early _ (by simp [earlyPhases])
  refine (leads_prepareProbeReceipt intent _).bind fun prepared => ?_
  obtain ⟨receipt, manifests⟩ := prepared
  dsimp only
  split
  · refine (leads_verifyRetainedProbe intent _).any.ite ?_
    refine (leads_observeProbe _ _).bind fun seen => (leads_armSeed hseedArmed).bind fun receipt => ?_
    refine (Leads.ite (leads_winProbe hseed _ _ _ _ _) (leads_pure _)).bind fun seen => ?_
    refine (Leads.ite ?_ (leads_pure _)).bind fun receipt => ?_
    · exact (leads_stopIf _ _).bind fun _ => (leads_lift _).bind fun _ =>
        ((leads_recordProbe hrejectArmed).bind fun _ => leads_pure _).any
    · exact (leads_stopIf _ _).bind fun _ => leads_rejectProbe intent _ hreject hverified _ _ _ _ _ _
  · exact leads_throw _

/-- The probe of a tag that is moved is moved. -/
theorem leads_swapProbe (receipt : RegistryProbeReceipt) (prior winner : RegistryManifest)
    (candidates : List (ProbeLabel × RegistryManifest)) :
    Leads p anyPhase (P.swapProbe receipt prior winner candidates) := by
  have hcas : text "registry_latest_probe_cas" ≠ text "lock_ref_remove" := earlyOperations_ne _ (by simp [earlyOperations])
  exact (leads_ask _).bind fun _ => (leads_lift _).bind fun _ => (leads_stopIf _ _).bind fun _ =>
    leads_winProbe hcas _ _ _ _ _

/-- The probe of a tag that is moved only from where it was. -/
theorem leads_runLatestCasProbe (intent : ReleaseIntent) :
    Leads p anyPhase (P.runLatestCasProbe intent) := by
  have hseed : text "registry_latest_probe_seed" ≠ text "lock_ref_remove" := earlyOperations_ne _ (by simp [earlyOperations])
  have hstale : text "registry_latest_probe_stale" ≠ text "lock_ref_remove" := earlyOperations_ne _ (by simp [earlyOperations])
  have hseedArmed : Early (text "registry_latest_probe_seed_armed") := earlyPhases_early _ (by simp [earlyPhases])
  have hcasArmed : Early (text "registry_latest_probe_cas_armed") := earlyPhases_early _ (by simp [earlyPhases])
  have hstaleArmed : Early (text "registry_latest_probe_stale_armed") := earlyPhases_early _ (by simp [earlyPhases])
  have hverified : Early (text "registry_latest_probe_verified") := earlyPhases_early _ (by simp [earlyPhases])
  refine (leads_prepareProbeReceipt intent _).bind fun prepared => ?_
  obtain ⟨receipt, manifests⟩ := prepared
  dsimp only
  split
  · refine (leads_verifyRetainedProbe intent _).any.ite ?_
    refine (leads_observeProbe _ _).bind fun seen => (leads_armSeed hseedArmed).bind fun receipt => ?_
    refine (Leads.ite (leads_winProbe hseed _ _ _ _ _) (leads_pure _)).bind fun seen => ?_
    refine (Leads.ite ?_ (leads_pure _)).bind fun receipt => ?_
    · exact (leads_stopIf _ _).bind fun _ => (leads_ask _).bind fun _ => (leads_lift _).bind fun _ =>
        (leads_stopIf _ _).bind fun _ => ((leads_recordProbe hcasArmed).bind fun _ => leads_pure _).any
    refine (Leads.ite ?_ (leads_pure _)).bind fun armed => ?_
    · refine (Leads.ite (leads_swapProbe _ _ _ _) (leads_pure _)).bind fun seen => ?_
      exact (leads_stopIf _ _).bind fun _ => (leads_lift _).bind fun _ => (leads_stopIf _ _).bind fun _ =>
        ((leads_recordProbe hstaleArmed).bind fun _ => leads_pure _).any
    · exact (leads_stopIf _ _).bind fun _ => (leads_stopIf _ _).bind fun _ =>
        leads_rejectProbe intent _ hstale hverified _ _ _ _ _ _
  · exact leads_throw _

/-! ## The steps of a publication -/

/-- A run without a recovery records its checkpoints under early phases. -/
theorem leads_startFresh (intent : ReleaseIntent) : Leads p anyPhase (P.startFresh intent) := by
  have hprepared : Early (text "prepared") := earlyPhases_early _ (by simp [earlyPhases])
  refine leads_actionsSnapshot.bind fun first => leads_actionsSnapshot.bind fun second => ?_
  refine (leads_stopIf _ _).bind fun _ => (leads_fresh _).bind fun token => ?_
  refine (leads_lift _).bind fun document => (leads_lift _).bind fun intentSha256 => ?_
  refine Leads.bind (leads_update (q := Early) fun _ _ => hprepared) fun _ => ?_
  refine (leads_readState intent).bind fun state => (leads_stopIf _ _).bind fun _ => ?_
  exact (leads_stopIf _ _).bind fun _ => (leads_record fun _ ht => ht).bind fun _ => (leads_pure _).any

/-- The lock of an earlier run is found, or was never taken. -/
theorem leads_reconcileLock (state : PublicState) : Leads p anyPhase (P.reconcileLock state) := by
  have hreconciled : Early (text "lock_ref_create_reconciled") := earlyPhases_early _ (by simp [earlyPhases])
  refine leads_get_bind fun s => (leads_stopIf _ _).any.ite ?_
  split
  · exact (leads_pure _).any
  · exact (leads_stopIf _ _).bind fun _ => (leads_update_record fun _ => hreconciled).any

/-- The object of the lock is created. -/
theorem leads_createLockObject (document : Text) : Leads p anyPhase (P.createLockObject document) := by
  have hcreate : text "lock_object_create" ≠ text "lock_ref_remove" := earlyOperations_ne _ (by simp [earlyOperations])
  refine (leads_publicWrite hcreate _).bind fun objectSha => (leads_stopIf _ _).bind fun _ => ?_
  exact Leads.bind (leads_update (q := Early) fun _ h => h) fun _ => (leads_record fun _ ht => ht).any

/-- The lock is taken. -/
theorem leads_acquireLock (intent : ReleaseIntent) (document : Text) :
    Leads p anyPhase (P.acquireLock intent document) := by
  have hcreate : text "lock_ref_create" ≠ text "lock_ref_remove" := earlyOperations_ne _ (by simp [earlyOperations])
  refine leads_get_bind fun s => (leads_pure _).any.ite ?_
  refine (Leads.ite (leads_createLockObject document) (leads_pure _).any).bind fun _ => ?_
  refine (leads_readState intent).bind fun state => (leads_stopIf _ _).bind fun _ => leads_get_bind fun s => ?_
  refine (leads_publicWrite hcreate _).bind fun _ => ?_
  exact Leads.bind (leads_update (q := Early) fun _ h => h) fun _ => leads_requireLock.bind fun _ =>
    (leads_record fun _ ht => ht).any

/-- The branch is moved. -/
theorem leads_publishMain (intent : ReleaseIntent) : Leads p anyPhase (P.publishMain intent) := by
  have hmain : text "main_fast_forward" ≠ text "lock_ref_remove" := earlyOperations_ne _ (by simp [earlyOperations])
  refine (leads_readState intent).bind fun state => leads_requireLock.bind fun _ => ?_
  refine (Leads.ite ?_ (leads_pure _).any).bind fun state => (leads_stopIf _ _).bind fun _ => leads_pure _
  exact (leads_publicWrite hmain _).bind fun _ => (leads_readState intent).any

/-- The tag is created. -/
theorem leads_publishTag (intent : ReleaseIntent) (state : PublicState) :
    Leads p anyPhase (P.publishTag intent state) := by
  have hobject : text "version_tag_object_create" ≠ text "lock_ref_remove" := earlyOperations_ne _ (by simp [earlyOperations])
  have href : text "version_tag_ref_create" ≠ text "lock_ref_remove" := earlyOperations_ne _ (by simp [earlyOperations])
  refine leads_requireLock.bind fun _ => ?_
  refine (Leads.ite ?_ (leads_pure _).any).bind fun state => (leads_stopIf _ _).bind fun _ => leads_pure _
  exact (leads_publicWrite hobject _).bind fun _ => (leads_stopIf _ _).bind fun _ =>
    (leads_publicWrite href _).bind fun _ => (leads_readState intent).any

/-- An operation whose name begins like that does not remove the lock. -/
theorem ne_of_starts {operation before : Text} (h : before ∈ earlyBeginnings) :
    before ++ operation ≠ text "lock_ref_remove" := fun heq =>
  earlyBeginnings_not_prefix before h ⟨operation, heq⟩

/-- An upload is begun, or the one that was begun is taken up. -/
theorem leads_startUpload (index : ℕ) (blob : RegistryBlob) :
    Leads p anyPhase (P.startUpload index blob) := by
  have hblob : text "registry_blob_" ∈ earlyBeginnings := by simp [earlyBeginnings]
  refine leads_get_bind fun s => ?_
  split
  · exact (leads_pure _).any
  · rw [List.append_assoc]
    refine (leads_publicWrite (ne_of_starts hblob) _).bind fun uploadUrl => ?_
    split
    · exact leads_throw _
    · exact Leads.bind (leads_update (q := Early) fun _ h => h) fun _ =>
        (leads_record fun _ ht => ht).bind fun _ => (leads_pure _).any

/-- A blob is uploaded. -/
theorem leads_publishBlob (index : ℕ) (blob : RegistryBlob) :
    Leads anyPhase anyPhase (P.publishBlob index blob) := by
  have hblob : text "registry_blob_" ∈ earlyBeginnings := by simp [earlyBeginnings]
  refine leads_requireLock.bind fun _ => (leads_ask _).bind fun present => (leads_pure _).ite ?_
  rw [List.append_assoc]
  exact (leads_startUpload index blob).bind fun _ => (leads_publicWrite (ne_of_starts hblob) _).bind fun _ =>
    (leads_ask _).bind fun _ => (leads_stopIf _ _).any

/-- A manifest is written. -/
theorem leads_publishManifest (index : ℕ) (manifest : RegistryManifest) :
    Leads anyPhase anyPhase (P.publishManifest index manifest) := by
  have hmanifest : text "registry_manifest_" ∈ earlyBeginnings := by simp [earlyBeginnings]
  refine leads_requireLock.bind fun _ => (leads_ask _).bind fun present => (leads_pure _).ite ?_
  rw [List.append_assoc]
  exact (leads_publicWrite (ne_of_starts hmanifest) _).bind fun _ => (leads_ask _).bind fun _ =>
    (leads_stopIf _ _).any

/-- The blobs, the manifests and the version. -/
theorem leads_publishVersion (intent : ReleaseIntent) (state : PublicState) :
    Leads p anyPhase (P.publishVersion intent state) := by
  have hversion : text "registry_version_conditional_create" ≠ text "lock_ref_remove" := earlyOperations_ne _ (by simp [earlyOperations])
  refine leads_requireLock.bind fun _ => (Leads.ite ?_ (leads_pure _).any).bind fun state => ?_
  · exact (leads_runVersionCreateProbe intent).bind fun _ => leads_requireLock.bind fun _ =>
      (leads_publicWrite hversion _).bind fun _ => (leads_readState intent).any
  · exact (leads_stopIf _ _).bind fun _ => leads_verifyRetainedProbe intent _

/-- The published version is tried out. -/
theorem leads_smoke (intent : ReleaseIntent) (proof : LocalSourceProof) :
    Leads p anyPhase (P.smoke intent proof) := by
  have hsmoke : Early (text "anonymous_pull_smoke_verified") := earlyPhases_early _ (by simp [earlyPhases])
  refine leads_requireLock.bind fun _ => (leads_ask _).bind fun identity => (leads_lift _).bind fun _ => ?_
  exact (leads_stopIf _ _).bind fun _ => (leads_lift _).bind fun _ =>
    (leads_update_record fun _ => hsmoke).any

/-- The release is created. -/
theorem leads_publishRelease (intent : ReleaseIntent) : Leads p anyPhase (P.publishRelease intent) := by
  have hrelease : text "github_release_create" ≠ text "lock_ref_remove" := earlyOperations_ne _ (by simp [earlyOperations])
  refine leads_requireLock.bind fun _ => (leads_readState intent).bind fun state => ?_
  refine (Leads.ite ?_ (leads_pure _).any).bind fun state => (leads_stopIf _ _).bind fun _ => leads_pure _
  exact (leads_publicWrite hrelease _).bind fun _ => (leads_readState intent).any

/-- `latest` is moved. -/
theorem leads_publishLatest (intent : ReleaseIntent) (state : PublicState) :
    Leads anyPhase anyPhase (P.publishLatest intent state) := by
  have hupdate : text "registry_latest_update" ≠ text "lock_ref_remove" := earlyOperations_ne _ (by simp [earlyOperations])
  have hunresolved : Early (text "registry_latest_outcome_unresolved") := earlyPhases_early _ (by simp [earlyPhases])
  have harmed : Early (text "registry_latest_update_armed") := earlyPhases_early _ (by simp [earlyPhases])
  refine leads_requireLock.bind fun _ => leads_get_bind fun s => ?_
  refine (Leads.ite ?_ (leads_pure _)).bind fun _ => ?_
  · exact (leads_verifyCompletionEvidence intent).bind fun _ => (leads_recordFailure hunresolved).bind fun _ =>
      leads_throw _
  refine (Leads.ite ?_ (leads_pure _)).bind fun state => leads_stopIf _ _
  refine (leads_readState intent).bind fun again => (leads_stopIf _ _).bind fun _ => ?_
  refine (leads_runLatestCasProbe intent).bind fun _ => leads_requireLock.bind fun _ => ?_
  refine Leads.bind (leads_update (q := Early) fun _ _ => harmed) fun _ => ?_
  exact (leads_record fun _ ht => ht).bind fun _ => (leads_publicWrite hupdate _).bind fun _ =>
    (leads_readState intent).any

/-- All steps up to the removal of the lock stay before the end. -/
theorem leads_publishAll (intent : ReleaseIntent) (proof : LocalSourceProof) (document : Text) :
    Leads anyPhase anyPhase (P.publishAll intent proof document) := by
  refine (leads_acquireLock intent document).bind fun _ => (leads_publishMain intent).bind fun state => ?_
  refine (leads_publishTag intent state).bind fun state => ?_
  refine (leads_forM fun _ _ => leads_publishBlob _ _).bind fun _ => ?_
  refine (leads_forM fun _ _ => leads_publishManifest _ _).bind fun _ => ?_
  refine (leads_publishVersion intent state).bind fun _ => (leads_smoke intent proof).bind fun _ => ?_
  exact (leads_publishRelease intent).bind fun state => (leads_publishLatest intent state).bind fun _ =>
    leads_verifyCompletionEvidence intent

/-! ## The end of a publication -/

/-- The completion is recorded rightly, and by a run that returns, in just the runs of the condition. -/
def Judged (intent : ReleaseIntent) (returned : Prop) (history : List PublicationEvent) : Prop :=
  (CompletesFinal intent history ∧
    (returned → ∃ c, PublicationEvent.appended c true ∈ history ∧ c.phase = text "complete")) ↔ StaysFinal intent history

/-- A run that has recorded neither is judged rightly. -/
theorem judged_of_unfinished (h : Unfinished history) : Judged intent False history :=
  iff_of_true ⟨h.completesFinal, False.elim⟩ h.staysFinal

/-- A procedure that does not read the public state. -/
def KeepsRead (m : Publish α) : Prop :=
  ∀ s, Ensures m s (fun _ s' => lastRead s'.history = lastRead s.history) (fun _ _ => True)

section KeepsRead

variable {β : Type} {m : Publish α} {f : α → Publish β}

/-- Nothing is read. -/
theorem keepsRead_pure (a : α) : KeepsRead (pure a : Publish α) := fun _ => rfl

/-- Nothing is read before an exception. -/
theorem keepsRead_throw (e : PublicationRaised) : KeepsRead (throw e : Publish α) := fun _ => trivial

/-- One procedure after the other. -/
theorem KeepsRead.bind (hm : KeepsRead m) (hf : ∀ a, KeepsRead (f a)) : KeepsRead (m >>= f) := by
  intro s
  rw [ensures_bind]
  refine (hm s).mono (fun a s' hs' => ?_) fun _ _ h => h
  exact (hf a s').mono (fun _ _ h => h.trans hs') fun _ _ h => h

/-- What is looked at of the run makes no difference. -/
theorem keepsRead_get_bind {f : PublicationRun → Publish β} (hf : ∀ s, KeepsRead (f s)) : KeepsRead (get >>= f) :=
  fun s => ensures_bind.2 (hf s s)

/-- A check reads nothing. -/
theorem keepsRead_lift (x : Except LoadError α) : KeepsRead (lift x) := by
  rcases x with e | a
  · exact keepsRead_throw _
  · exact keepsRead_pure a

/-- A probe of the registry is no public state. -/
theorem keepsRead_readRegistryProbe (reference : Text) : KeepsRead (P.ask (.readRegistryProbe reference)) := by
  intro s
  rw [Ensures, ask]
  rcases P.answer s.history (.readRegistryProbe reference) with e | a
  · exact trivial
  · rfl

/-- Nor is a retained probe. -/
theorem keepsRead_verifyRetainedProbe (intent : ReleaseIntent) (kind : ProbeKind) :
    KeepsRead (P.verifyRetainedProbe intent kind) := by
  refine keepsRead_get_bind fun s => ?_
  split
  · exact keepsRead_throw _
  · refine (keepsRead_lift _).bind fun manifests => ?_
    refine KeepsRead.bind ?_ fun _ => ?_
    · split
      · exact keepsRead_throw _
      · exact keepsRead_pure _
    · split
      · exact (keepsRead_readRegistryProbe _).bind fun _ => (keepsRead_lift _).bind fun _ =>
          (keepsRead_lift _).bind fun _ => keepsRead_lift _
      · exact (keepsRead_readRegistryProbe _).bind fun _ => (keepsRead_lift _).bind fun _ =>
          (keepsRead_lift _).bind fun _ => keepsRead_lift _
      · exact keepsRead_throw _

/-- Nor are both of them. -/
theorem keepsRead_verifyCompletionEvidence (intent : ReleaseIntent) :
    KeepsRead (P.verifyCompletionEvidence intent) :=
  (keepsRead_lift _).bind fun _ => keepsRead_get_bind fun _ => (keepsRead_lift _).bind fun _ =>
    (keepsRead_verifyRetainedProbe intent .create).bind fun _ => keepsRead_verifyRetainedProbe intent .cas

end KeepsRead

/-- A recovery that has read the final state records the completion rightly. -/
theorem ensures_recordRecovered (hs : Unfinished s.history)
    (hfinal : (lastRead s.history).any (isFinalState · intent) = true) :
    Ensures (P.recordRecovered intent) s (fun _ s' => Judged intent True s'.history)
      (fun _ s' => Judged intent False s'.history) := by
  have hstart : At anyPhase s := ⟨hs, trivial⟩
  rw [recordRecovered, ensures_bind]
  refine ((leads_verifyCompletionEvidence intent s hstart).and (keepsRead_verifyCompletionEvidence intent s)).mono
    ?_ fun _ _ h => judged_of_unfinished h.1
  rintro _ s' ⟨hs', hread⟩
  rw [ensures_bind, Publisher.update, ensures_modify, Ensures, record]
  have hjudged : ∀ c durable returned, c.phase = text "complete" → (returned → durable = true) →
      Judged intent returned (.appended c durable :: s'.history) := by
    intro c durable returned hphase hdurable
    refine iff_of_true ⟨completesFinal_appended.2 ⟨fun _ => ?_, hs'.unfinished.completesFinal⟩, fun h => ?_⟩
      (staysFinal_appended.2 hs'.unfinished.staysFinal)
    · rw [hread]
      exact hfinal
    · rw [hdurable h]
      exact ⟨c, List.mem_cons_self, hphase⟩
  dsimp only
  split
  · next happended =>
    split at happended
    · obtain ⟨rfl, rfl⟩ := EStateM.Result.ok.inj happended
      exact hjudged _ _ _ rfl fun _ => rfl
    · cases happended
  · next happended =>
    split at happended
    · cases happended
    · obtain ⟨rfl, rfl⟩ := EStateM.Result.error.inj happended
      exact hjudged _ _ _ rfl False.elim

/-- What a run starts with: its lock document, unless it has recorded the completion. -/
def Started (intent : ReleaseIntent) (document : Option Text) (history : List PublicationEvent) : Prop :=
  match document with
  | none => Judged intent True history
  | some _ => Unfinished history

/-- The state that is returned is the one that was read last. -/
theorem lastRead_readState (hs : Unfinished s.history) : Ensures (P.readState intent) s
    (fun state s' => Unfinished s'.history ∧ lastRead s'.history = some state)
    (fun _ s' => Unfinished s'.history) := by
  rw [readState, ensures_bind, ensures_get, ensures_bind, Ensures, ask]
  rcases P.answer s.history (.readPublicState s.checkpoint.lockDocumentSha256) with e | state
  · exact hs.called _ _
  · dsimp only
    have hread := hs.called (.readPublicState s.checkpoint.lockDocumentSha256) (.ok state)
    rw [ensures_bind]
    rcases validatePublicComponents state intent with e | _
    · exact hread
    · exact ⟨hread, rfl⟩

/-- A recovery starts a run, or the publication is complete already, and that is judged rightly. -/
theorem ensures_startRecovered (recovery : PublicationCheckpoint) (hs : Unfinished s.history) :
    Ensures (P.startRecovered intent recovery) s (fun document s' => Started intent document s'.history)
      (fun _ s' => Judged intent False s'.history) := by
  have hunfinished : ∀ (e : PublicationRaised) (s' : PublicationRun), Unfinished s'.history → Judged intent False s'.history :=
    fun _ _ => judged_of_unfinished
  have hstart : At anyPhase s := ⟨hs, trivial⟩
  unfold startRecovered
  refine (leads_update fun _ _ => trivial).ensures_bind (q := anyPhase) hstart hunfinished fun _ s₁ hs₁ => ?_
  refine (leads_lift _).ensures_bind hs₁ hunfinished fun _ s₂ hs₂ => ?_
  refine leads_assertActionsUnchanged.ensures_bind hs₂ hunfinished fun _ s₃ hs₃ => ?_
  refine (leads_lift _).ensures_bind hs₃ hunfinished fun document s₄ hs₄ => ?_
  rw [ensures_bind]
  refine (lastRead_readState hs₄.unfinished).mono ?_ hunfinished
  rintro state s₅ ⟨hs₅, hread⟩
  have hat : At anyPhase s₅ := ⟨hs₅, trivial⟩
  have hrecorded : isFinalState state intent = true →
      Ensures (do P.recordRecovered intent; return (none : Option Text)) s₅
        (fun document s' => Started intent document s'.history) (fun _ s' => Judged intent False s'.history) := by
    intro hfinal
    rw [ensures_bind]
    refine (ensures_recordRecovered hs₅ ?_).mono (fun _ _ h => h) fun _ _ h => h
    rw [hread]
    exact hfinal
  by_cases hremoved : recovery.lockRemoved = true
  · rw [if_pos hremoved, ensures_bind, ensures_stopIf]
    refine ⟨fun _ => judged_of_unfinished hs₅, fun _ => ?_⟩
    rw [ensures_bind, ensures_stopIf]
    exact ⟨fun _ => judged_of_unfinished hs₅, fun hfinal => hrecorded (not_not.1 hfinal)⟩
  rw [if_neg hremoved]
  split
  · next hgone => exact hrecorded hgone.2.2
  · exact (leads_reconcileLock state).ensures_bind hat hunfinished fun _ _ hs₆ => hs₆.unfinished

/-- So does the beginning of a run, with a recovery or without. -/
theorem ensures_start (recovery : Option PublicationCheckpoint) (hs : Unfinished s.history) :
    Ensures (P.start intent recovery) s (fun document s' => Started intent document s'.history)
      (fun _ s' => Judged intent False s'.history) := by
  rcases recovery with _ | recovery
  · rw [start, ensures_map]
    exact (leads_startFresh (p := anyPhase) intent s ⟨hs, trivial⟩).mono (fun _ _ h => h.unfinished)
      fun _ _ => judged_of_unfinished
  · exact ensures_startRecovered recovery hs

/-- The record of the removal is not the one of the completion. -/
theorem Written.completesFinal (h : Written (text "lock_ref_remove") durable history) :
    CompletesFinal intent history := by
  obtain ⟨c, before, rfl, hbefore, hphase⟩ := h
  refine completesFinal_appended.2 ⟨fun hcomplete => ?_, hbefore.completesFinal⟩
  exact absurd ⟨_, hphase.symm.trans hcomplete⟩ written_remove.2

/-- Until the lock is removed nothing is asked of the states that were read. -/
theorem Written.staysFinal (h : Written (text "lock_ref_remove") durable history) :
    StaysFinal intent history := by
  obtain ⟨c, before, rfl, hbefore, -⟩ := h
  exact staysFinal_appended.2 hbefore.staysFinal

/-- Behind the removal it is the checkpoint that was appended last. -/
theorem Written.lastAppended (h : Written (text "lock_ref_remove") durable history) :
    (lastAppended history).map (·.phase) = some (text "lock_ref_remove_written") := by
  obtain ⟨c, before, rfl, -, hphase⟩ := h
  exact congrArg some (hphase.trans written_remove.1.symm)

variable {document : Json} {state : PublicState}

/-- A state that the run does not go on with. -/
theorem Written.judged_read (h : Written (text "lock_ref_remove") durable history)
    (hnot : validatePublicComponents state intent = .ok () → state.lock ≠ none) :
    Judged intent False (.called (.readPublicState document) (.ok state) :: history) :=
  iff_of_true ⟨completesFinal_called.2 h.completesFinal, False.elim⟩
    (staysFinal_read.2 ⟨fun _ hvalid hlock => absurd hlock (hnot hvalid), h.staysFinal⟩)

/-- The record of the completion is right if and only if the state was the final one when the lock was seen
    to be gone. -/
theorem Written.judged_complete {returned : Prop} {recorded : Bool}
    (h : Written (text "lock_ref_remove") durable history)
    (hvalid : validatePublicComponents state intent = .ok ()) (hlock : state.lock = none)
    (hphase : c.phase = text "complete") (hreturned : returned → recorded = true) :
    Judged intent returned
      (.appended c recorded :: .called (.readPublicState document) (.ok state) :: history) := by
  have hcompletes : CompletesFinal intent
      (.appended c recorded :: .called (.readPublicState document) (.ok state) :: history) ↔
        isFinalState state intent = true := by
    rw [completesFinal_appended, completesFinal_called]
    exact ⟨fun h => h.1 hphase, fun hfinal => ⟨fun _ => hfinal, h.completesFinal⟩⟩
  have hstays : StaysFinal intent
      (.appended c recorded :: .called (.readPublicState document) (.ok state) :: history) ↔
        isFinalState state intent = true := by
    rw [staysFinal_appended, staysFinal_read]
    exact ⟨fun hboth => hboth.1 h.lastAppended hvalid hlock, fun hfinal => ⟨fun _ _ _ => hfinal, h.staysFinal⟩⟩
  rw [Judged, hcompletes, hstays]
  refine ⟨And.left, fun hfinal => ⟨hfinal, fun hret => ⟨c, ?_, hphase⟩⟩⟩
  rw [hreturned hret]
  exact List.mem_cons_self

/-- The last step: the state is read once, right after the removal has been recorded. -/
theorem ensures_removeLock (hs : Unfinished s.history) :
    Ensures (P.removeLock intent) s (fun _ s' => Judged intent True s'.history)
      (fun _ s' => Judged intent False s'.history) := by
  have hunfinished : ∀ (e : PublicationRaised) (s' : PublicationRun), Unfinished s'.history → Judged intent False s'.history :=
    fun _ _ => judged_of_unfinished
  have hstart : At anyPhase s := ⟨hs, trivial⟩
  unfold removeLock
  refine leads_requireLock.ensures_bind hstart hunfinished fun _ s₁ hs₁ => ?_
  rw [ensures_bind, ensures_get, ensures_bind]
  refine (ensures_publicWrite hs₁.unfinished).mono ?_ ?_
  swap
  · rintro _ s₂ (h | h)
    · exact judged_of_unfinished h
    · exact iff_of_true ⟨h.completesFinal, False.elim⟩ h.staysFinal
  rintro _ s₂ ⟨hwritten, -⟩
  rw [readState, ensures_bind, ensures_bind, ensures_get, ensures_bind, Ensures, ask]
  -- The answer to this read decides: what it shows is the final state or not.
  rcases P.answer s₂.history (.readPublicState s₂.checkpoint.lockDocumentSha256) with e | state
  · exact iff_of_true ⟨completesFinal_called.2 hwritten.completesFinal, False.elim⟩
      (staysFinal_error.2 hwritten.staysFinal)
  dsimp only
  rw [ensures_bind]
  rcases hvalid : validatePublicComponents state intent with e | _
  · exact hwritten.judged_read fun hok => absurd (hvalid.symm.trans hok) (by simp)
  change Ensures (stopIf state.lock.isSome "publication_lock_removal_unverified" >>= _) _ _ _
  rw [ensures_bind, ensures_stopIf]
  refine ⟨fun hlock => hwritten.judged_read fun _ hnone => ?_, fun hlock => ?_⟩
  · rw [hnone] at hlock
    cases hlock
  -- From here on the state is known to be final, so that every exit has to be judged by it.
  have hgone : state.lock = none := Option.not_isSome_iff_eq_none.1 hlock
  rw [ensures_bind, Publisher.update, ensures_modify, ensures_bind, Ensures, record]
  split
  · next happended =>
    split at happended
    · obtain ⟨rfl, rfl⟩ := EStateM.Result.ok.inj happended
      rw [ensures_stopIf]
      exact ⟨fun _ => hwritten.judged_complete hvalid hgone rfl False.elim,
        fun _ => hwritten.judged_complete hvalid hgone rfl fun _ => rfl⟩
    · cases happended
  · next happended =>
    split at happended
    · cases happended
    · obtain ⟨rfl, rfl⟩ := EStateM.Result.error.inj happended
      exact hwritten.judged_complete hvalid hgone rfl False.elim

/-- However a run ends, its records are judged by the states that it read. -/
theorem ensures_publish (recovery : Option PublicationCheckpoint) (hs : Unfinished s.history) :
    Ensures (P.publish intent recovery) s (fun _ s' => Judged intent True s'.history)
      (fun _ s' => Judged intent False s'.history) := by
  have hunfinished : ∀ (e : PublicationRaised) (s' : PublicationRun), Unfinished s'.history → Judged intent False s'.history :=
    fun _ _ => judged_of_unfinished
  have hvalidated : Leads anyPhase anyPhase (P.validated intent) := by
    unfold validated
    split
    · exact leads_pure _
    · exact leads_throw _
  have hstart : At anyPhase s := ⟨hs, trivial⟩
  unfold publish
  refine hvalidated.ensures_bind hstart hunfinished fun _ s₁ hs₁ => ?_
  refine (leads_ask _).ensures_bind hs₁ hunfinished fun proof s₂ hs₂ => ?_
  refine (leads_lift _).ensures_bind hs₂ hunfinished fun _ s₃ hs₃ => ?_
  rw [ensures_bind]
  refine (ensures_start recovery hs₃.unfinished).mono ?_ fun _ _ h => h
  rintro (_ | document) s₄ hs₄
  · exact hs₄
  · have hat : At anyPhase s₄ := ⟨hs₄, trivial⟩
    exact (leads_publishAll intent proof document).ensures_bind hat hunfinished
      fun _ s₅ hs₅ => ensures_removeLock hs₅.unfinished

end Publisher

/-- The record of the completion is right, and there is one if the run returns, if and only if the state
    that is read after the removal of the lock is the final one. -/
theorem completes_final_iff (P : Publisher) (intent : ReleaseIntent) (recovery : Option PublicationCheckpoint)
    (c₀ : PublicationCheckpoint) :
    (CompletesFinal intent (Procedure.after (P.publish intent recovery) ⟨c₀, []⟩).history ∧
      ((∃ s, P.publish intent recovery ⟨c₀, []⟩ = .ok () s) →
        ∃ c, PublicationEvent.appended c true ∈ (Procedure.after (P.publish intent recovery) ⟨c₀, []⟩).history ∧
          c.phase = text "complete")) ↔
      StaysFinal intent (Procedure.after (P.publish intent recovery) ⟨c₀, []⟩).history := by
  have hunfinished : Unfinished [] := fun _ _ h => absurd h List.not_mem_nil
  have hrun : Ensures (P.publish intent recovery) ⟨c₀, []⟩ (fun _ s' => Publisher.Judged intent True s'.history)
      (fun _ s' => Publisher.Judged intent False s'.history) := Publisher.ensures_publish recovery hunfinished
  rw [Ensures] at hrun
  rw [Procedure.after]
  -- A run that raises promises no record, so only what is recorded counts.
  rcases hresult : P.publish intent recovery ⟨c₀, []⟩ with ⟨u, s'⟩ | ⟨e, s'⟩ <;> rw [hresult] at hrun
  · refine Iff.trans (and_congr_right fun _ => ?_) hrun
    exact ⟨fun h _ => h ⟨s', rfl⟩, fun h _ => h trivial⟩
  · refine Iff.trans (and_congr_right fun _ => ?_) hrun
    refine ⟨fun _ => False.elim, ?_⟩
    rintro _ ⟨_, ⟨⟩⟩

end

/-! ## A run in which `latest` was moved back -/

namespace Regressed

/-- An interpreter, on texts without fractions. -/
def interpreter : Interpreter where
  floats := ⟨fun t => if t = text "1.0" then some t else none, reads_one⟩
  floatValue _ := 1
  refuses _ := false

/-- The hexadecimal digits of a number, before the digits that are there already. -/
def hexBefore : ℕ → ℕ → Text → Text
  | 0, _, digits => digits
  | width + 1, n, digits =>
    hexBefore width (n / 16) ((if n % 16 < 10 then n % 16 + 48 else n % 16 + 87) :: digits)

/-- A number in hexadecimal digits, with zeros in front. -/
def hex (width n : ℕ) : Text := hexBefore width n []

/-- SHA-256, of the contents of this run, by a checksum of theirs. -/
def hashes : List (ℕ × ℕ) :=
  [(114, 0x454349e422f05297191ead13e21d3db520e5abef52055e4964b82fb213f593a1),
   (8772, 0x12ae32cb1ec02d01eda3581b127c1fee3b0dc53572ed6baf239721a03d82e126),
   (2254181, 0x19d9457176393d4f09549620a78e1ec8a62aa469a0b538648af36c8b4483dde0),
   (9978641, 0xf56830f59f2849838c0343e3a90697727e73fd75306ea7c844e8ad33a1f84b6c),
   (80725903, 0x0e1bf770d41917650a830fc1902256d5b543dd47a4764a6d9fe27e8cecb0eaf4),
   (124142099, 0xfe46c5a72731cb9d9f89e865026508e1263b6b2e6d07cc2645b954898177a9f4),
   (176525201, 0x83a0d8bb354d2f84a0c888a30232b6007ae457d9d269ef031058322763f46596),
   (177128353, 0x386a55123ea504d8f4cdd5d25d02396e663b0eb1fe6d2ace06ba1ad6b3c1a013),
   (221571892, 0xc8b5eab6d42ca24ab4b4be26bd775b196391dc9669fecad6e23785df8ef80cb3),
   (271955873, 0x03efe2929c62a14a5e3551f05be7aaa69dcb8fd578fd1f3ab0cf551b9d118b03),
   (315856640, 0xb6014ac4130be89cbfa3f14daba903aadb0910531ecf3f783ca92e377f2b3287),
   (440266756, 0x6fdaea3cc82154b1c0950a9d5a044e137775db5e8d23fcf1a08afd2c42e05e26),
   (463101648, 0x97048bd9a94701490395a1a9f890f2ae707906546b5cc9767890c0fdba4baff0),
   (464354081, 0x06dcb600d5beaa7a4dbbbbda6b1247b2dfd5a68cd16312bd588783332f3dc57b),
   (539326115, 0x2995b8abd9f568980d3acfc174624c4c194e655bd2c9def58c3a737c1f04767c),
   (573081200, 0x6db5fed15bc1ea44497f83267f80bbc68c9d9de0fc45c05e550d9c1a3b333239),
   (609665122, 0xd1ca41ca4726410b6cfcbe21b1e84a27b26b77ec80ec9b9646cf409d96c5955c),
   (685189014, 0x9b4d2cbf8de2e09f110dd54df89884da296e1ff8ab6b9e2f0aeaf8b896d3dc33),
   (699384514, 0x53a959d7a9d47780c82a5b6e8d11063ff740569228ab130d8191c20ee36097f4),
   (716288918, 0x2b01e63ef31eb303dff1e0e0b6f88be94a5a6ffa7d8e52d7ef4f2203290a29d9),
   (795690109, 0xb4c088ce8f175f942554470fc7fb0fadd6232bad19efcfceb5bc630d728f4f1d),
   (904904218, 0xb66654b68a9f5ed63e9f1a84d3112fd7741ad366765b456c3a8455f0cdb8c254),
   (969803622, 0x0eec15760be2d6160735f740188629da549307b221895cfbc28ec081251f560f),
   (979986230, 0xf8b8ca60459c508e5ffab7325cd5c38605b4f0c61291949413315a6bdd853964)]

/-- A number from the bytes of a payload, which stands for its hash here. -/
def checksum (payload : List ℕ) : ℕ := payload.foldl (fun sum c => (257 * sum + c) % 1000000007) 0

/-- The digits of a hash. -/
def hash (payload : List ℕ) : Text := hex 64 ((hashes.lookup (checksum payload)).getD 0)

/-- A digest by its number. -/
def digestOf (n : ℕ) : Text := text "sha256:" ++ hex 64 n

/-- The digest of the layer. -/
def layerDigest : Text := digestOf 0x5f70bf18a086007016e948b04aed3b82103a36bea41755b6cddfaf10ace3c6ef

/-- The digest of the configuration. -/
def configDigest : Text := digestOf 0x59b0b56ef68d9b15042ec599419afbcf58536799dc5bd650f9135a96d2df68e6

/-- The digest of the manifest. -/
def manifestDigest : Text := digestOf 0x566532ba6f96869a10b75ad5fe927f5a31aef0195d318fc38102d7514363b4f6

/-- The digest of the index. -/
def indexDigest : Text := digestOf 0xd1ca41ca4726410b6cfcbe21b1e84a27b26b77ec80ec9b9646cf409d96c5955c

/-- The media type of a layer. -/
def layerType : Text := text "application/vnd.oci.image.layer.v1.tar"

/-- The media type of a configuration. -/
def configType : Text := text "application/vnd.oci.image.config.v1+json"

/-- The media type of a manifest. -/
def manifestType : Text := text "application/vnd.oci.image.manifest.v1+json"

/-- The commit that is published. -/
def runtimeCommit : Text := List.replicate 40 49

/-- The configuration of an image with one layer, which is empty. -/
def config : Json :=
  .object
    [(text "architecture", .str (text "amd64")),
     (text "config", .object [(text "Labels",
       .object [(text "org.opencontainers.image.revision", .str runtimeCommit)])]),
     (text "os", .str (text "linux")),
     (text "rootfs", .object
       [(text "diff_ids", .array [.str layerDigest]), (text "type", .str (text "layers"))])]

/-- The manifest of the image. -/
def manifest : Json :=
  .object
    [(text "config", descriptor configDigest 252 configType),
     (text "layers", .array [descriptor layerDigest 1024 layerType]),
     (text "mediaType", .str manifestType), (text "schemaVersion", .int 2)]

/-- The members of the index of the image. -/
def index : List (Text × Json) :=
  [(text "manifests", .array [.object
     [(text "digest", .str manifestDigest), (text "mediaType", .str manifestType),
      (text "platform", .object
        [(text "architecture", .str (text "amd64")), (text "os", .str (text "linux"))]),
      (text "size", .int 397)]]),
   (text "mediaType", .str ociIndexMediaType), (text "schemaVersion", .int 2)]

/-- The release of the image, the first one under `latest`. -/
def intent : ReleaseIntent where
  repository := text "Herbertmt978/Subgen-English-Plex"
  imageRepository := text "herbertmt978/subgen-english-plex"
  priorMainCommit := List.replicate 40 52
  runtimeCommit := runtimeCommit
  samplerCommit := List.replicate 40 50
  releaseCommit := List.replicate 40 51
  annotatedTag := ⟨List.replicate 40 53⟩
  releaseTitle := text "r"
  releaseNotes := text "r"
  releaseNotesBlob := List.replicate 40 54
  task11bVerifierReceiptSha256 := hex 64 0x4c94485e0c21ae6c41ce1dfe7b6bfaceea5ab68e40a2476f50208e526f506080
  sealedManifest := (Json.object index).dumps.getD []
  image := ⟨indexDigest, configDigest, [layerDigest], runtimeCommit⟩
  requiredBlobs :=
    [⟨configDigest, 252, configType, config.dumps.getD []⟩,
     ⟨layerDigest, 1024, layerType, List.replicate 1024 0⟩]
  requiredManifests := [⟨manifestDigest, 397, manifestType, manifest.dumps.getD []⟩]
  priorLatestDigest := none
  mainRef := text "refs/heads/main"
  versionTag := text "v0.5.0"
  lockRef := text "refs/tags/subgen-task12-publication-lock-v0.5.0"

/-- The object of the lock. -/
def lockSha : Text := List.replicate 40 55

/-- The digest of the lock document. -/
def lockSha256 : Text := hex 64 0x53a959d7a9d47780c82a5b6e8d11063ff740569228ab130d8191c20ee36097f4

/-- The token of both probes. -/
def probeToken : Text := List.replicate 64 56

/-- The token of the run. -/
def runToken : Text := List.replicate 64 57

/-- The ETag of the winner. -/
def winnerEtag : Text := text "\"!\""

/-- The receipt of the probe that was created once. -/
def createReceipt : RegistryProbeReceipt where
  kind := .create
  token := probeToken
  reference := registryProbePrefix ++ text "create-" ++ hex 40 0x2995b8abd9f568980d3acfc174624c4c194e655b
  stage := text "verified"
  priorEtag := none
  winnerEtag := some winnerEtag
  verificationSha256 := some (hex 64 0xb66654b68a9f5ed63e9f1a84d3112fd7741ad366765b456c3a8455f0cdb8c254)

/-- The receipt of the probe that was moved. -/
def casReceipt : RegistryProbeReceipt where
  kind := .cas
  token := probeToken
  reference := registryProbePrefix ++ text "cas-" ++ hex 40 0x03efe2929c62a14a5e3551f05be7aaa69dcb8fd5
  stage := text "verified"
  priorEtag := some (text "\"\"")
  winnerEtag := some winnerEtag
  verificationSha256 := some (hex 64 0x83a0d8bb354d2f84a0c888a30232b6007ae457d9d269ef031058322763f46596)

/-- What the registry has under the reference of a probe. -/
def winner (digest mark : ℕ) : RegistryProbeObservation where
  digest := some (digestOf digest)
  etag := some winnerEtag
  payload := some ((Json.object ((text "annotations", .object
    [(text "io.github.herbertmt978.subgen.task12.probe", .str (hex 64 mark))]) :: index)).dumps.getD [] ++ [10])

/-- The checkpoint of a run that was interrupted right after it had updated `latest`. -/
def checkpoint : PublicationCheckpoint where
  intentSha256 := .str (hex 64 0x386a55123ea504d8f4cdd5d25d02396e663b0eb1fe6d2ace06ba1ad6b3c1a013)
  runToken := .str runToken
  runIds := []
  baselineSha256 := hex 64 0x6db5fed15bc1ea44497f83267f80bbc68c9d9de0fc45c05e550d9c1a3b333239
  lockDocumentSha256 := .str lockSha256
  phase := text "registry_latest_update_written"
  lockObjectSha := .str lockSha
  lockAcquired := true
  lockRemoved := false
  completedWrites :=
    [text "lock_object_create", text "lock_ref_create", text "main_fast_forward",
     text "version_tag_object_create", text "version_tag_ref_create", text "registry_blob_000_upload_start",
     text "registry_blob_000_upload_finish", text "registry_blob_001_upload_start",
     text "registry_blob_001_upload_finish", text "registry_manifest_000_put",
     text "registry_version_probe_seed", text "registry_version_probe_reject",
     text "registry_version_conditional_create", text "github_release_create",
     text "registry_latest_probe_seed", text "registry_latest_probe_cas", text "registry_latest_probe_stale",
     text "registry_latest_update"]
  anonymousSmokeSha256 := .str (hex 64 0x0eec15760be2d6160735f740188629da549307b221895cfbc28ec081251f560f)
  versionCreateProbe := some createReceipt
  latestCasProbe := some casReceipt
  latestWriteAttempted := true
  blobUploadUrls := [(configDigest, text "/1"), (layerDigest, text "/2")]
  failureCode := .null
  receiptSequence := 50
  previousReceiptSha256 := some (List.replicate 64 48)

/-- Everything is published, and the lock is still there. -/
def published : PublicState where
  mainCommit := intent.releaseCommit
  versionTagObject := some intent.annotatedTag.objectSha
  release := some ⟨intent.versionTag, intent.releaseTitle, false, false, intent.releaseNotes⟩
  versionDigest := some indexDigest
  latestDigest := some indexDigest
  lock := some ⟨lockSha, lockSha256⟩

/-- Whether the lock has been removed. -/
def lockRemoved : List PublicationEvent → Bool
  | [] => false
  | .called (.removeLockExact _) _ :: _ => true
  | _ :: before => lockRemoved before

/-- The sources as they have to be. -/
def sources : LocalSourceProof where
  cleanWorktree := true
  workflowsManualOnly := true
  runtimeCommit := intent.runtimeCommit
  samplerCommit := intent.samplerCommit
  releaseCommit := intent.releaseCommit
  runtimeIsAncestorOfSampler := true
  samplerIsAncestorOfRelease := true
  annotatedTagObject := intent.annotatedTag.objectSha
  annotatedTagTarget := intent.releaseCommit
  releaseNotesBlob := intent.releaseNotesBlob
  releaseNotes := intent.releaseNotes
  task11bVerifierReceiptSha256 := intent.task11bVerifierReceiptSha256
  candidateDockerEngineIdSha256 := List.replicate 64 48
  image := intent.image
  gitRemoteUrl := canonicalGitRemoteUrl

/-- Somebody else takes the image from `latest` while the lock is removed; no other write is needed. -/
def answer (history : List PublicationEvent) : (call : AdapterCall) → Except PublicationRaised call.Answer
  | .verifyLocalSources => .ok sources
  | .fetchAllActionsRunIds => .ok []
  | .readPublicState _ => .ok
      (if lockRemoved history then { published with latestDigest := none, lock := none } else published)
  | .registryBlobPresent _ | .registryManifestPresent _ => .ok true
  | .readRegistryProbe reference => .ok
      (if reference = createReceipt.reference then
        winner 0xf56830f59f2849838c0343e3a90697727e73fd75306ea7c844e8ad33a1f84b6c
          0x0e1bf770d41917650a830fc1902256d5b543dd47a4764a6d9fe27e8cecb0eaf4
      else
        winner 0x97048bd9a94701490395a1a9f890f2ae707906546b5cc9767890c0fdba4baff0
          0xf8b8ca60459c508e5ffab7325cd5c38605b4f0c61291949413315a6bdd853964)
  | .anonymousPullSmoke _ => .ok intent.image
  | .assertLock .. | .removeLockExact _ => .ok ()
  | .createLockObject _ | .createLockRef _ | .advanceMain | .createVersionTagObject | .createVersionTagRef
  | .startRegistryBlobUpload _ | .finishRegistryBlobUpload .. | .putRegistryManifest _ | .putRegistryProbe ..
  | .conditionalCreateVersion | .createRelease | .updateLatest _ => .error .other

/-- A publisher whose calls all succeed, and whose `latest` was moved back between the last two readings. -/
def publisher : Publisher where
  interpreter := interpreter
  hash := hash
  answer := answer
  append _ c := .ok (c.receiptSequence + 1, some (List.replicate 64 48))
  tokenFactory _ := .ok runToken
  probeTokenFactory _ := .ok probeToken
  validateIntent _ := .ok ()

/-- What happened last, and the state that had been read before. -/
def ending : List PublicationEvent → Option (Text × Option PublicState)
  | .appended c _ :: before => some (c.phase, lastRead before)
  | _ => none

/-- The run records the completion, and the state that it read last is not the final one. -/
theorem ending_eq :
    ending (Procedure.after (publisher.publish intent (some checkpoint)) ⟨checkpoint, []⟩).history =
      some (text "complete", some { published with latestDigest := none, lock := none }) := by
  decide +kernel

end Regressed

open Regressed in
/-- The completion is recorded although `latest` has been moved back. -/
theorem completes_regressed :
    ¬ CompletesFinal intent
      (Procedure.after (publisher.publish intent (some checkpoint)) ⟨checkpoint, []⟩).history := by
  have hending := ending_eq
  generalize (Procedure.after (publisher.publish intent (some checkpoint)) ⟨checkpoint, []⟩).history = history
    at hending ⊢
  rcases history with _ | ⟨_ | ⟨c, durable⟩, before⟩
  · cases hending
  · cases hending
  · obtain ⟨hphase, hread⟩ := Prod.mk.inj (Option.some.inj hending)
    intro h
    have hfinal := h c durable before (List.suffix_refl _) hphase
    rw [hread] at hfinal
    exact absurd hfinal (by decide +kernel)

end Subgen

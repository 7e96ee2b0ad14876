import Subgen.Deletion.Unlink

/-!
# The phases of a deletion

What a run of `secureUnlinkRegularBeneath` knows, from what its calls have answered
(`DeletePhase.next`), and how it may end there (`follows_secureUnlink`). A call that does not
belong to a phase leads to `wrong`, so that a run of the source never gets there: nothing is
renamed before the quarantine was seen to be empty, and the candidate is unlinked where it has
been linked at the leaf again, or behind a tombstone after it passed as the expected file.

What a phase means for the directory depends on who else may change it, and is said where that
is known. Here only the order of the calls matters: a function of the source is a script of calls, and
`Follows` says of a script that it starts in a phase, makes only calls that belong to the phase it is in,
and ends in a phase that the source may return from or raise in. The rules of `Follows` are those of a
script (`follows_bind`, `follows_tryCatch`, `follows_rescue`), and there is one lemma for each function of
the source, in the order in which they call one another, so that a change to one of them is a change to one
lemma.

* `DeletePhase`: what is known of the candidate, of the tombstone and of the quarantine;
* `DeletePhase.next`: what an answer of a call adds to that;
* `follows_secureUnlink`: the whole deletion, from the first look at the path to its end.
-/

namespace Subgen

open Relation

/-- How far a deletion has come, by the answers of the calls so far. -/
inductive DeletePhase
  -- The directories that lead to the file, and the completed directory.
  | closed
  | unavailable
  | finished
  | cleared
  | recovered
  -- The active directory.
  | fresh
  | missing
  | opened
  | absent
  | marked
  | vacant
  | seenLeaf (stat : FileStat)
  -- A candidate.
  | moved (identity : FileIdentity)
  | seen (identity : FileIdentity) (stat : FileStat)
  | present
  | resumed (identity : FileIdentity) (stat : FileStat)
  | linked
  | stuck
  | restored
  | prepared (identity : FileIdentity)
  | erased
  | deleted
  | renamed
  | wrong

namespace DeletePhase

/-- What the leaf has to be like to be renamed. -/
def accepts (expected : Option FileIdentity) (stat : FileStat) : Bool :=
  stat.regular && expected.all (stat.identity = ·)

/-- What a candidate has to be like to be marked for deletion. -/
def matchesStat (identity : FileIdentity) (stat : FileStat) : Bool :=
  stat.regular && stat.identity.Stable identity

/-- The phase behind a call. -/
def next (expected : Option FileIdentity) (φ : DeletePhase) (o : FileCall) (r : o.Answer) :
    DeletePhase :=
  match o, r with
  | .act .close, _ => φ
  | .act .openComponent, r =>
    match φ, r with
    | .closed, .error .notFound => .unavailable
    | .closed, _ => .closed
    | _, _ => .wrong
  | .act (.find .completed), r =>
    match φ, r with
    | .closed, .ok _ => .finished
    | .closed, .error .notFound => .fresh
    | .closed, _ => .closed
    | .deleted, _ => .deleted
    | _, _ => .wrong
  | .act (.find (.candidate .completed)), r =>
    match φ, r with
    | .finished, .error .notFound => .cleared
    | .finished, _ => .finished
    | _, _ => .wrong
  | .act (.find (.candidate .active)), r =>
    match φ, r with
    | .opened, .ok _ => .present
    | .opened, .error .notFound => .absent
    | .opened, _ => .opened
    | _, _ => .wrong
  | .act (.find (.tombstone .completed)), _ =>
    match φ with
    | .recovered => .recovered
    | .renamed => .renamed
    | _ => .wrong
  | .act (.find (.tombstone .active)), r =>
    match φ, r with
    | .absent, .ok _ => .marked
    | .absent, .error .notFound => .vacant
    | .absent, _ => .absent
    | .present, _ => .present
    | _, _ => .wrong
  | .stat .leaf, r =>
    match φ, r with
    | .vacant, .ok stat => .seenLeaf stat
    | .vacant, .error _ => .vacant
    | _, _ => .wrong
  | .stat .candidate, r =>
    match φ, r with
    | .moved e, .ok stat => .seen e stat
    | .moved e, .error _ => .moved e
    | .present, .ok stat => expected.elim .wrong (.resumed · stat)
    | .present, .error _ => .present
    | _, _ => .wrong
  | .statTombstone, _ =>
    match φ with
    | .prepared e => .prepared e
    | _ => .wrong
  | .act .mkdir, _ =>
    match φ with
    | .fresh => .fresh
    | _ => .wrong
  | .act (.openDirectory .active), r =>
    match φ, r with
    | .fresh, .ok _ => .opened
    | .fresh, .error .notFound => .missing
    | .fresh, _ => .fresh
    | _, _ => .wrong
  | .act (.openDirectory .completed), _ =>
    match φ with
    | .finished => .finished
    | _ => .wrong
  | .fstat name, _ =>
    match φ, name with
    | .finished, .completed => .finished
    | .opened, .active => .opened
    | _, _ => .wrong
  | .listdir name, _ =>
    match φ, name with
    | .finished, .completed => .finished
    | .opened, .active => .opened
    | _, _ => .wrong
  | .act .createTombstone, r =>
    match φ, r with
    | .seen e stat, .ok _ => if matchesStat e stat then .prepared e else .wrong
    | .seen e stat, .error .exists => if matchesStat e stat then .prepared e else .wrong
    | .seen e stat, .error _ => .seen e stat
    | .resumed e stat, .ok _ => if matchesStat e stat then .prepared e else .wrong
    | .resumed e stat, .error .exists => if matchesStat e stat then .prepared e else .wrong
    | .resumed e stat, .error _ => .resumed e stat
    | _, _ => .wrong
  | .act .renameLeaf, r =>
    match φ, r with
    | .seenLeaf stat, .ok _ => if accepts expected stat then .moved stat.identity else .wrong
    | .seenLeaf _, .error _ => .vacant
    | _, _ => .wrong
  | .act .link, r =>
    match φ, r with
    | .moved _, .ok _ => .linked
    | .moved e, .error _ => .moved e
    | .seen _ _, .ok _ => .linked
    | .seen e stat, .error _ => .seen e stat
    | _, _ => .wrong
  | .act .unlinkCandidate, r =>
    match φ, r with
    | .linked, .ok _ => .restored
    | .linked, .error _ => .stuck
    | .prepared _, .ok _ => .erased
    | .prepared e, .error _ => .prepared e
    | _, _ => .wrong
  | .act .unlinkTombstone, _ =>
    match φ with
    | .recovered => .recovered
    | .renamed => .renamed
    | _ => .wrong
  | .act .renameDirectory, r =>
    match φ, r with
    | .deleted, .ok _ => .renamed
    | .deleted, .error _ => .deleted
    | _, _ => .wrong
  | .act .rmdir, _ =>
    match φ with
    | .recovered => .recovered
    | .renamed => .renamed
    | _ => .wrong
  | .act .fsync, r =>
    match φ, r with
    | .cleared, .ok _ => .recovered
    | .cleared, .error _ => .cleared
    | .marked, .ok _ => .deleted
    | .marked, .error _ => .marked
    | .erased, .ok _ => .deleted
    | .erased, .error _ => .erased
    | .fresh, _ => .fresh
    | .moved e, _ => .moved e
    | .restored, _ => .restored
    | .prepared e, _ => .prepared e
    | .renamed, _ => .renamed
    | _, _ => .wrong

-- The equations of `next`, once for the proofs that follow.
attribute [local simp] next

/-- Where an answer that is an error leads to. -/
theorem next_error {expected : Option FileIdentity} {φ : DeletePhase} {o : FileCall} {e : FileError}
    (hfind : ∀ name, o ≠ .act (.find name)) (hnext : φ.next expected o (.error e) ≠ .wrong) :
    φ.next expected o (.error e) = φ ∨
      (φ = .closed ∧ φ.next expected o (.error e) = .unavailable ∨
        φ = .fresh ∧ φ.next expected o (.error e) = .missing) ∨
      (∃ stat, φ = .seenLeaf stat ∧ φ.next expected o (.error e) = .vacant) ∨
      (φ = .linked ∧ φ.next expected o (.error e) = .stuck) ∨
      ∃ e' stat, (φ = .seen e' stat ∨ φ = .resumed e' stat) ∧ matchesStat e' stat = true ∧
        φ.next expected o (.error e) = .prepared e' := by
  -- By the call: which errors are foreseen depends on the phase that it is made in.
  cases o with
  | act a =>
    cases a with
    | find name => exact absurd rfl (hfind name)
    | createTombstone =>
      cases e with
      | «exists» =>
        cases φ with
        | seen e' stat =>
          by_cases hstat : matchesStat e' stat = true
          · exact .inr (.inr (.inr (.inr ⟨e', stat, .inl rfl, hstat, if_pos hstat⟩)))
          · exact absurd (if_neg hstat) hnext
        | resumed e' stat =>
          by_cases hstat : matchesStat e' stat = true
          · exact .inr (.inr (.inr (.inr ⟨e', stat, .inr rfl, hstat, if_pos hstat⟩)))
          · exact absurd (if_neg hstat) hnext
        | _ => exact absurd rfl hnext
      | _ => cases φ <;> first | exact .inl rfl | exact absurd rfl hnext
    | renameLeaf =>
      cases φ with
      | seenLeaf stat => exact .inr (.inr (.inl ⟨stat, rfl, rfl⟩))
      | _ => exact absurd rfl hnext
    | unlinkCandidate =>
      cases φ <;>
        first | exact .inl rfl | exact .inr (.inr (.inr (.inl ⟨rfl, rfl⟩))) | exact absurd rfl hnext
    | openComponent =>
      cases φ <;> cases e <;>
        first | exact .inl rfl | exact .inr (.inl (.inl ⟨rfl, rfl⟩)) | exact absurd rfl hnext
    | openDirectory name =>
      cases name <;> cases φ <;> cases e <;>
        first | exact .inl rfl | exact .inr (.inl (.inr ⟨rfl, rfl⟩)) | exact absurd rfl hnext
    | _ => cases φ <;> first | exact .inl rfl | exact absurd rfl hnext
  | stat place => cases place <;> cases φ <;> first | exact .inl rfl | exact absurd rfl hnext
  | fstat name | listdir name => cases name <;> cases φ <;> first | exact .inl rfl | exact absurd rfl hnext
  | statTombstone => cases φ <;> first | exact .inl rfl | exact absurd rfl hnext

/-- The run may return here. -/
def returns : DeletePhase → Bool
  | .recovered => true
  | .deleted => true
  | .renamed => true
  | _ => false

/-- What it may raise here. An `OSError` may come from anywhere. -/
def raises : UnlinkError → DeletePhase → Bool
  | .unavailable _, .unavailable => true
  | .unavailable _, .missing => true
  | .unavailable _, .finished => true
  | .unavailable _, .vacant => true
  | .unavailable _, .present => true
  | .unavailable _, .restored => true
  | .unavailable _, _ => false
  | .unsafePath _, .unavailable => false
  | .unsafePath _, .missing => false
  | .unsafePath _, .moved _ => false
  | .unsafePath _, .seen _ _ => false
  | .unsafePath _, .stuck => false
  | .unsafePath _, .prepared _ => false
  | .unsafePath _, .erased => false
  | _, .linked => false
  | _, .wrong => false
  | _, _ => true

/-- Something may be raised here. -/
def CanRaise (φ : DeletePhase) : Prop := φ ≠ .wrong ∧ φ ≠ .linked

/-- An error of the system may be raised in every phase but a few. -/
theorem raises_os (x : FileError) (φ : DeletePhase) : raises (.os x) φ = true ↔ φ.CanRaise := by
  cases φ <;> simp [raises, CanRaise]

/-- The phases as a setting: a call leads to the next phase, whatever it answers. -/
def setting (expected : Option FileIdentity) : Setting DeletePhase FileCall FileCall.Answer where
  answers φ o r φ' := φ' = next expected φ o r
  others _ _ := False
  stops _ _ := False

end DeletePhase

namespace Deletion

/-- From the phase on, the calls of the script belong to their phases. -/
def Follows (expected : Option FileIdentity) {α : Type} (Q : α → DeletePhase → Prop)
    (E : UnlinkError → DeletePhase → Prop) (p : Deletion α) (φ : DeletePhase) : Prop :=
  Script.Meets (DeletePhase.setting expected) (fun _ φ' => φ' ≠ .wrong) Q E p φ

variable {expected : Option FileIdentity} {α β : Type} {Q : α → DeletePhase → Prop}
  {E : UnlinkError → DeletePhase → Prop} {φ : DeletePhase}

/-- A value leaves the phase as it is. -/
@[simp] theorem follows_pure (a : α) : Follows expected Q E (pure a) φ ↔ Q a φ := Iff.rfl

/-- An exception leaves it as it is. -/
@[simp] theorem follows_throw (e : UnlinkError) :
    Follows expected Q E (throw e : Deletion α) φ ↔ E e φ := Iff.rfl

/-- One script after the other. -/
@[simp] theorem follows_bind {p : Deletion α} {f : α → Deletion β} {Q : β → DeletePhase → Prop} :
    Follows expected Q E (p >>= f) φ ↔
      Follows expected (fun a φ => Follows expected Q E (f a) φ) E p φ := Script.meets_bind

/-- Each of the two branches. -/
@[simp] theorem follows_ite {c : Prop} [Decidable c] {p q : Deletion α} :
    Follows expected Q E (if c then p else q) φ ↔
      (c → Follows expected Q E p φ) ∧ (¬ c → Follows expected Q E q φ) := Script.meets_ite

/-- A handler starts in the phase in which the exception was raised. -/
@[simp] theorem follows_tryCatch {p : Deletion α} {handler : UnlinkError → Deletion α} :
    Follows expected Q E (tryCatch p handler) φ ↔
      Follows expected Q (fun e φ => Follows expected Q E (handler e) φ) p φ := Script.meets_tryCatch

/-- A call is judged by the phase that each of its answers leads to. -/
theorem follows_ask {o : FileCall} {Q : o.Answer → DeletePhase → Prop} :
    Follows expected Q E (Script.ask o) φ ↔
      ∀ r, φ.next expected o r ≠ .wrong ∧ Q r (φ.next expected o r) := by
  constructor
  · exact fun h r => h φ r _ .refl rfl
  · rintro h φ₁ r φ₂ hothers rfl
    have hsame : φ₁ = φ := by
      rcases hothers.cases_head with heq | ⟨_, ⟨⟩, _⟩
      exact heq.symm
    rw [hsame]
    exact h r

/-- A call whose errors are raised as they are. -/
theorem follows_attempt {o : FileCall} {Q : o.Reply → DeletePhase → Prop} :
    Follows expected Q E (attempt o) φ ↔
      (∀ a, φ.next expected o (.ok a) ≠ .wrong ∧ Q a (φ.next expected o (.ok a))) ∧
      ∀ x, φ.next expected o (.error x) ≠ .wrong ∧ E (.os x) (φ.next expected o (.error x)) := by
  rw [attempt, follows_bind, follows_ask]
  constructor
  · exact fun h => ⟨fun a => h (.ok a), fun x => h (.error x)⟩
  · rintro ⟨hok, herror⟩ (x | a)
    · exact herror x
    · exact hok a

/-- A call that returns nothing. -/
@[simp] theorem follows_act {a : FileAct} {Q : Unit → DeletePhase → Prop} :
    Follows expected Q E (act a) φ ↔
      (φ.next expected (.act a) (.ok ()) ≠ .wrong ∧ Q () (φ.next expected (.act a) (.ok ()))) ∧
      ∀ x, φ.next expected (.act a) (.error x) ≠ .wrong ∧
        E (.os x) (φ.next expected (.act a) (.error x)) :=
  follows_attempt.trans (and_congr ⟨fun h => h (), fun h _ => h⟩ Iff.rfl)

/-- A look at the file. -/
@[simp] theorem follows_stat {place : FilePlace} {Q : FileStat → DeletePhase → Prop} :
    Follows expected Q E (attempt (.stat place)) φ ↔
      (∀ a, φ.next expected (.stat place) (.ok a) ≠ .wrong ∧
        Q a (φ.next expected (.stat place) (.ok a))) ∧
      ∀ x, φ.next expected (.stat place) (.error x) ≠ .wrong ∧
        E (.os x) (φ.next expected (.stat place) (.error x)) := follows_attempt

/-- A look at the mark of a deletion. -/
@[simp] theorem follows_statTombstone {Q : Bool × ℤ → DeletePhase → Prop} :
    Follows expected Q E (attempt .statTombstone) φ ↔
      (∀ a, φ.next expected .statTombstone (.ok a) ≠ .wrong ∧
        Q a (φ.next expected .statTombstone (.ok a))) ∧
      ∀ x, φ.next expected .statTombstone (.error x) ≠ .wrong ∧
        E (.os x) (φ.next expected .statTombstone (.error x)) := follows_attempt

/-- A look at an opened directory. -/
@[simp] theorem follows_fstat {name : QuarantineName} {Q : Bool → DeletePhase → Prop} :
    Follows expected Q E (attempt (.fstat name)) φ ↔
      (∀ a, φ.next expected (.fstat name) (.ok a) ≠ .wrong ∧
        Q a (φ.next expected (.fstat name) (.ok a))) ∧
      ∀ x, φ.next expected (.fstat name) (.error x) ≠ .wrong ∧
        E (.os x) (φ.next expected (.fstat name) (.error x)) := follows_attempt

/-- What an opened directory holds. -/
@[simp] theorem follows_listdir {name : QuarantineName} {Q : Bool → DeletePhase → Prop} :
    Follows expected Q E (attempt (.listdir name)) φ ↔
      (∀ a, φ.next expected (.listdir name) (.ok a) ≠ .wrong ∧
        Q a (φ.next expected (.listdir name) (.ok a))) ∧
      ∀ x, φ.next expected (.listdir name) (.error x) ≠ .wrong ∧
        E (.os x) (φ.next expected (.listdir name) (.error x)) := follows_attempt

/-- A handler of the errors of the system. -/
@[simp] theorem follows_rescue {p : Deletion α} {handler : FileError → Deletion α} :
    Follows expected Q E (rescue p handler) φ ↔
      Follows expected Q (fun e φ => match e with
        | .os x => Follows expected Q E (handler x) φ
        | e => E e φ) p φ := by
  rw [rescue, follows_tryCatch]
  refine iff_of_eq (congrArg (Follows expected Q · p φ) ?_)
  funext e φ
  cases e <;> rfl

/-- There are three kinds of errors. -/
@[simp] theorem FileError.forall_iff {P : FileError → Prop} :
    (∀ x, P x) ↔ P .notFound ∧ P .exists ∧ P .other :=
  ⟨fun h => ⟨h _, h _, h _⟩, fun ⟨h₁, h₂, h₃⟩ x => by cases x <;> assumption⟩

/-- A call whose error is looked at on the spot. -/
@[simp] theorem follows_ask_act {a : FileAct} {Q : Except FileError Unit → DeletePhase → Prop} :
    Follows expected Q E (Script.ask (FileCall.act a)) φ ↔
      (φ.next expected (.act a) (.ok ()) ≠ .wrong ∧ Q (.ok ()) (φ.next expected (.act a) (.ok ()))) ∧
      ∀ x, φ.next expected (.act a) (.error x) ≠ .wrong ∧
        Q (.error x) (φ.next expected (.act a) (.error x)) := by
  refine (follows_ask (o := .act a)).trans ⟨fun h => ⟨h (.ok ()), fun x => h (.error x)⟩, ?_⟩
  rintro ⟨hok, herror⟩ (x | _)
  · exact herror x
  · exact hok

/-- Less may be asked behind a script. -/
theorem Follows.mono {Q' : α → DeletePhase → Prop} {E' : UnlinkError → DeletePhase → Prop}
    {p : Deletion α} (h : Follows expected Q E p φ) (hQ : ∀ a φ, Q a φ → Q' a φ)
    (hE : ∀ e φ, E e φ → E' e φ) : Follows expected Q' E' p φ :=
  Script.Meets.mono h hQ hE

/-- The errors that belong to their phases. -/
def Raises (e : UnlinkError) (φ : DeletePhase) : Prop := DeletePhase.raises e φ = true

/-- It may be raised wherever an error of the system may. -/
theorem raises_recoveryRequired (m : String) {φ : DeletePhase} (hφ : φ.CanRaise) :
    Raises (.recoveryRequired m) φ := by
  cases φ <;> first | rfl | exact absurd rfl hφ.1 | exact absurd rfl hφ.2

/-- Whether a name is there: a missing one is no error. -/
@[simp] theorem follows_entryExists {name : EntryName} {Q : Bool → DeletePhase → Prop} :
    Follows expected Q E (entryExists name) φ ↔
      (φ.next expected (.act (.find name)) (.ok ()) ≠ .wrong ∧
        Q true (φ.next expected (.act (.find name)) (.ok ()))) ∧
      (φ.next expected (.act (.find name)) (.error .notFound) ≠ .wrong ∧
        Q false (φ.next expected (.act (.find name)) (.error .notFound))) ∧
      ∀ x, x = .exists ∨ x = .other → φ.next expected (.act (.find name)) (.error x) ≠ .wrong ∧
        E (.unsafePath "Could not inspect private delete path")
          (φ.next expected (.act (.find name)) (.error x)) := by
  simp [entryExists]

/-- The candidate goes back to its place, or to the quarantine for good. -/
theorem follows_restore (name : String) {φ : DeletePhase}
    (hφ : (∃ e, φ = .moved e) ∨ ∃ e stat, φ = .seen e stat) :
    Follows expected (fun _ φ => φ = .restored)
      (fun e φ => φ.CanRaise ∧ ∃ m, e = .unsafePath m ∨ e = .recoveryRequired m)
      (restoreQuarantinedCandidate name) φ := by
  rcases hφ with ⟨e, rfl⟩ | ⟨e, stat, rfl⟩ <;> simp [restoreQuarantinedCandidate, DeletePhase.next, DeletePhase.CanRaise]

/-- The mark is made, once the identity of the candidate is known. -/
theorem follows_ensureDeleteTombstone {e : FileIdentity} {stat : FileStat} {φ : DeletePhase}
    (hstat : DeletePhase.matchesStat e stat = true) (hφ : φ = .seen e stat ∨ φ = .resumed e stat) :
    Follows expected (fun _ φ => φ = .prepared e) (fun _ φ => φ.CanRaise) ensureDeleteTombstone φ := by
  rcases hφ with rfl | rfl <;> simp [ensureDeleteTombstone, finally', DeletePhase.next, DeletePhase.CanRaise, hstat]

/-- The last directory is removed. -/
theorem follows_cleanCompletedDirectory :
    Follows expected (fun _ φ => φ.returns = true) Raises cleanCompletedDirectory .renamed := by
  simp [cleanCompletedDirectory, DeletePhase.next, DeletePhase.returns, Raises, DeletePhase.raises]

/-- A deletion is completed from the phase in which the file is gone. -/
theorem follows_completePrivateDelete :
    Follows expected (fun _ φ => φ.returns = true) Raises completePrivateDelete .deleted := by
  have hclean : Follows expected (fun _ φ => φ.returns = true) Raises cleanCompletedDirectory .renamed :=
    follows_cleanCompletedDirectory
  have hreturns : DeletePhase.deleted.returns = true := rfl
  simp [completePrivateDelete, DeletePhase.next, Raises, DeletePhase.raises, hclean, hreturns]

/-- The mark is made and the candidate is deleted, in this order. -/
theorem follows_deleteCandidate (request : UnlinkRequest) {e : FileIdentity} {stat : FileStat}
    {φ : DeletePhase} (hstat : DeletePhase.matchesStat e stat = true)
    (hφ : φ = .seen e stat ∨ φ = .resumed e stat) :
    Follows expected (fun _ φ => φ.returns = true) Raises (deleteCandidate request e) φ := by
  rw [deleteCandidate, follows_bind, rescueAll, follows_tryCatch]
  refine (follows_ensureDeleteTombstone hstat hφ).mono ?_ ?_
  · rintro _ φ rfl
    have hcomplete : Follows expected (fun _ φ => φ.returns = true) Raises completePrivateDelete .deleted :=
      follows_completePrivateDelete
    simpa [DeletePhase.next, Raises, DeletePhase.raises] using hcomplete
  · exact fun _ φ hφ => raises_recoveryRequired _ hφ

/-! ## The functions -/

/-- The check of a size looks at nothing. -/
theorem follows_expectedFileSize (size : Option ℤ) {φ : DeletePhase} :
    Follows expected (fun _ φ' => φ' = φ) (fun e φ' => φ' = φ ∧ ∃ m, e = .unsafePath m)
      (expectedFileSize size) φ := by
  cases size <;> simp [expectedFileSize]

/-- The file is looked at in its place, and is the expected one. -/
theorem follows_validatedLeafIdentity (size : Option ℤ) :
    Follows expected
      (fun a φ => ∃ stat, φ = .seenLeaf stat ∧ DeletePhase.accepts expected stat = true ∧
        a = stat.identity) Raises (validatedLeafIdentity .leaf expected size) .vacant := by
  rw [validatedLeafIdentity, follows_bind]
  refine (follows_expectedFileSize size).mono ?_ ?_
  · rintro wanted _ rfl
    simp only [follows_bind, follows_rescue, follows_stat, follows_ite, follows_throw, follows_pure,
      DeletePhase.next, FileError.forall_iff]
    refine ⟨fun stat => ⟨nofun, fun _ => rfl, fun hregular => ⟨fun _ => rfl, fun hidentity =>
      ⟨fun _ => rfl, fun _ => ⟨stat, rfl, ?_, rfl⟩⟩⟩⟩, ⟨nofun, rfl⟩, ⟨nofun, rfl⟩, ⟨nofun, rfl⟩⟩
    cases expected <;> simp_all [DeletePhase.accepts]
  · rintro _ _ ⟨rfl, m, rfl⟩
    rfl

/-- The candidate is looked at in the quarantine. -/
theorem follows_validatedCandidate (size : Option ℤ) (seen : FileStat → DeletePhase) (φ : DeletePhase)
    (hok : ∀ stat, φ.next expected (.stat .candidate) (.ok stat) = seen stat)
    (herror : ∀ x, φ.next expected (.stat .candidate) (.error x) = φ)
    (hφ : φ ≠ .wrong) (hseen : ∀ stat, seen stat ≠ .wrong) :
    Follows expected (fun a φ' => ∃ stat, φ' = seen stat ∧ stat.regular = true ∧ a = stat.identity)
      (fun e φ' => (φ' = φ ∧ ∃ m, e = .unsafePath m ∨ e = .unavailable m) ∨
        ((∃ stat, φ' = seen stat) ∧ ∃ m, e = .unsafePath m))
      (validatedLeafIdentity .candidate none size) φ := by
  rw [validatedLeafIdentity, follows_bind]
  refine (follows_expectedFileSize size).mono ?_ ?_
  · rintro wanted _ rfl
    simp only [follows_bind, follows_rescue, follows_stat, follows_ite, follows_throw, follows_pure,
      hok, herror, FileError.forall_iff]
    refine ⟨fun stat => ⟨hseen stat, fun _ => .inr ⟨⟨stat, rfl⟩, _, rfl⟩, fun hregular =>
      ⟨fun _ => .inr ⟨⟨stat, rfl⟩, _, rfl⟩, fun _ => ⟨fun _ => .inr ⟨⟨stat, rfl⟩, _, rfl⟩, fun _ =>
        ⟨stat, rfl, by simpa using hregular, rfl⟩⟩⟩⟩, ⟨hφ, .inl ⟨trivial, _, .inr rfl⟩⟩,
      ⟨hφ, .inl ⟨trivial, _, .inl rfl⟩⟩, ⟨hφ, .inl ⟨trivial, _, .inl rfl⟩⟩⟩
  · rintro _ _ ⟨rfl, m, rfl⟩
    exact .inl ⟨rfl, m, .inl rfl⟩

/-- It is the one that was moved there. -/
theorem follows_validatedQuarantinedIdentity (wanted : FileIdentity) (size : Option ℤ)
    (seen : FileStat → DeletePhase) (φ : DeletePhase)
    (hok : ∀ stat, φ.next expected (.stat .candidate) (.ok stat) = seen stat)
    (herror : ∀ x, φ.next expected (.stat .candidate) (.error x) = φ)
    (hφ : φ ≠ .wrong) (hseen : ∀ stat, seen stat ≠ .wrong) :
    Follows expected (fun a φ' => a = wanted ∧ ∃ stat, φ' = seen stat ∧
        DeletePhase.matchesStat wanted stat = true)
      (fun e φ' => (φ' = φ ∧ ∃ m, e = .unsafePath m ∨ e = .unavailable m) ∨
        ((∃ stat, φ' = seen stat) ∧ ∃ m, e = .unsafePath m))
      (validatedQuarantinedIdentity (some wanted) size) φ := by
  rw [validatedQuarantinedIdentity]
  simp only [follows_bind]
  refine (follows_validatedCandidate size seen φ hok herror hφ hseen).mono ?_ fun _ _ h => h
  rintro _ _ ⟨stat, rfl, hregular, rfl⟩
  simp only [follows_ite, follows_throw, follows_pure]
  refine ⟨fun _ => .inr ⟨⟨stat, rfl⟩, _, rfl⟩, fun hnot => ⟨trivial, stat, rfl, ?_⟩⟩
  rw [not_or] at hnot
  simp [DeletePhase.matchesStat, hregular, Decidable.of_not_not hnot.1]

/-- What a restore raises becomes a demand for recovery. -/
theorem follows_restoreOrRecover (name m : String) {φ : DeletePhase} {Q : Unit → DeletePhase → Prop}
    (hφ : (∃ e, φ = .moved e) ∨ ∃ e stat, φ = .seen e stat) (hQ : Q () .restored) :
    Follows expected Q Raises
      (rescueUnsafe (restoreQuarantinedCandidate name) (throw (.recoveryRequired m))) φ := by
  rw [rescueUnsafe, follows_tryCatch]
  refine (follows_restore name hφ).mono ?_ ?_
  · rintro ⟨⟩ _ rfl
    exact hQ
  · rintro _ φ' ⟨hφ', m', rfl | rfl⟩
    · exact raises_recoveryRequired m hφ'
    · exact raises_recoveryRequired m hφ'

/-- The file goes to the quarantine and is looked at again; a wrong one goes back. -/
theorem follows_quarantineCandidate (request : UnlinkRequest)
    (hexpected : request.expectedIdentity = expected) :
    Follows expected (fun a φ => ∃ stat, φ = .seen a stat ∧ DeletePhase.matchesStat a stat = true)
      Raises (quarantineCandidate request) .vacant := by
  rw [quarantineCandidate, follows_bind, hexpected]
  refine (follows_validatedLeafIdentity request.expectedSize).mono ?_ fun _ _ h => h
  rintro _ _ ⟨stat, rfl, haccepts, rfl⟩
  have hmoved : (∃ e, DeletePhase.moved stat.identity = .moved e) ∨
      ∃ e stat', DeletePhase.moved stat.identity = .seen e stat' := .inl ⟨_, rfl⟩
  -- Behind the rename the candidate is looked at again, and put back if it is not the same.
  have hrace : Follows expected
      (fun a φ => ∃ stat, φ = .seen a stat ∧ DeletePhase.matchesStat a stat = true) Raises
      (rescueAll (validatedQuarantinedIdentity (some stat.identity) request.expectedSize) fun error => do
        rescueUnsafe (restoreQuarantinedCandidate request.activeName)
          (throw (.recoveryRequired "Candidate race requires recovery from private quarantine"))
        throw error) (.moved stat.identity) := by
    rw [rescueAll, follows_tryCatch]
    refine (follows_validatedQuarantinedIdentity stat.identity request.expectedSize
      (.seen stat.identity) (.moved stat.identity) (fun _ => rfl) (fun _ => rfl) nofun
      nofun).mono ?_ ?_
    · rintro _ _ ⟨rfl, stat', rfl, hstat'⟩
      exact ⟨stat', rfl, hstat'⟩
    · rintro e φ (⟨rfl, m, rfl | rfl⟩ | ⟨⟨stat', rfl⟩, m, rfl⟩)
      · exact follows_bind.2 (follows_restoreOrRecover _ _ hmoved rfl)
      · exact follows_bind.2 (follows_restoreOrRecover _ _ hmoved rfl)
      · exact follows_bind.2 (follows_restoreOrRecover _ _ (.inr ⟨_, _, rfl⟩) rfl)
  have hsync : ∀ {Q : Unit → DeletePhase → Prop}, Q () .restored → Follows expected Q Raises
      (rescueUnsafe (restoreQuarantinedCandidate request.activeName)
        (throw (.recoveryRequired "Quarantine move requires recovery; candidate remains protected")))
      (.moved stat.identity) := follows_restoreOrRecover _ _ hmoved
  simp only [follows_bind, follows_rescue, follows_act, follows_throw, DeletePhase.next, haccepts,
    FileError.forall_iff, if_true, hrace, hsync, Raises, DeletePhase.raises]
  simp

/-- A deletion that was marked is taken up again. -/
theorem follows_resumeMarkedDelete (wanted : Option FileIdentity) :
    Follows expected (fun _ φ => φ.returns = true) Raises (resumeMarkedDelete wanted) .marked := by
  cases wanted with
  | none => exact rfl
  | some current =>
    have hcomplete : Follows expected (fun _ φ => φ.returns = true) Raises completePrivateDelete .deleted :=
      follows_completePrivateDelete
    simp [resumeMarkedDelete, DeletePhase.next, Raises, DeletePhase.raises, hcomplete]

/-- A candidate that was left behind is deleted if it passes as the expected file. -/
theorem follows_resumeDelete (request : UnlinkRequest) (hexpected : request.expectedIdentity = expected) :
    Follows expected (fun _ φ => φ.returns = true) Raises
      (do
        let current ← validatedQuarantinedIdentity request.expectedIdentity request.expectedSize
        deleteCandidate request current) .present := by
  rw [hexpected]
  cases expected with
  | none => exact rfl
  | some wanted =>
    rw [follows_bind]
    refine (follows_validatedQuarantinedIdentity wanted request.expectedSize (.resumed wanted)
      .present (fun _ => rfl) (fun _ => rfl) nofun nofun).mono ?_ ?_
    · rintro _ _ ⟨rfl, stat, rfl, hstat⟩
      exact follows_deleteCandidate request hstat (.inr rfl)
    · rintro e φ (⟨rfl, m, rfl | rfl⟩ | ⟨⟨stat, rfl⟩, m, rfl⟩) <;> rfl

/-- A deletion from the beginning. -/
theorem follows_startDelete (request : UnlinkRequest) (hexpected : request.expectedIdentity = expected) :
    Follows expected (fun _ φ => φ.returns = true) Raises
      (do
        let current ← quarantineCandidate request
        deleteCandidate request current) .vacant := by
  rw [follows_bind]
  refine (follows_quarantineCandidate request hexpected).mono ?_ fun _ _ h => h
  rintro current _ ⟨stat, rfl, hstat⟩
  exact follows_deleteCandidate request hstat (.inl rfl)

/-- In an opened quarantine a deletion is taken up again or begun. -/
theorem follows_deleteFromQuarantine (request : UnlinkRequest)
    (hexpected : request.expectedIdentity = expected) :
    Follows expected (fun _ φ => φ.returns = true) Raises (deleteFromQuarantine request) .opened := by
  have hpresent := follows_resumeDelete request hexpected
  have hvacant := follows_startDelete request hexpected
  have hmarked : Follows expected (fun _ φ => φ.returns = true) Raises
      (resumeMarkedDelete request.expectedIdentity) .marked := follows_resumeMarkedDelete _
  rw [deleteFromQuarantine]
  simp only [follows_bind, entryExists, follows_rescue, follows_act, follows_throw, follows_pure,
    DeletePhase.next, FileError.forall_iff, follows_ite, Bool.not_true, Bool.and_false,
    Bool.false_eq_true, Bool.not_false, Bool.and_self, hmarked] at hpresent hvacant ⊢
  simp [Raises, DeletePhase.raises, hpresent, hvacant]

/-- One directory on the way is opened. -/
theorem follows_openComponent (missing refused : String) :
    Follows expected (fun _ φ => φ = .closed) Raises (openComponent missing refused) .closed := by
  simp [openComponent, DeletePhase.next, Raises, DeletePhase.raises]

/-- All of them are. -/
theorem follows_openParents (n : ℕ) :
    Follows expected (fun _ φ => φ = .closed) Raises (openParents n) .closed := by
  induction n with
  | zero => exact rfl
  | succ n ih =>
    rw [openParents, follows_bind]
    refine (follows_openComponent _ _).mono ?_ fun _ _ h => h
    rintro _ _ rfl
    exact ih

/-- What is raised may be raised. -/
theorem Raises.canRaise {e : UnlinkError} {φ : DeletePhase} (h : Raises e φ) : φ.CanRaise := by
  constructor
  · rintro rfl
    cases e <;> cases h
  · rintro rfl
    cases e <;> cases h

/-- The directory is closed in the phase in which the script ends. -/
theorem follows_close {p : Deletion α} {Q : α → DeletePhase → Prop} (h : Follows expected Q Raises p φ)
    (hQ : ∀ a φ, Q a φ → φ.CanRaise) : Follows expected Q Raises (finally' p (act .close)) φ := by
  rw [finally', follows_bind, follows_tryCatch]
  refine h.mono ?_ ?_
  · intro a φ ha
    simp [DeletePhase.next, ha, hQ a φ ha, (hQ a φ ha).1, Raises, DeletePhase.raises_os]
  · intro e φ he
    have herror : DeletePhase.raises e φ = true := he
    simp [DeletePhase.next, herror, he.canRaise, he.canRaise.1, Raises, DeletePhase.raises_os]

/-- What is opened is checked, and closed if it does not pass. -/
theorem follows_checkOpened {name : QuarantineName}
    (hφ : φ = .finished ∧ name = .completed ∨ φ = .opened ∧ name = .active) :
    Follows expected (fun _ φ' => φ' = φ) Raises
      (rescueAll (checkPrivateDeleteDirectory name) fun error => do
        act .close
        throw error) φ := by
  rcases hφ with ⟨rfl, rfl⟩ | ⟨rfl, rfl⟩ <;>
    simp [rescueAll, checkPrivateDeleteDirectory, DeletePhase.next, Raises, DeletePhase.raises]

/-- A new quarantine is made. -/
theorem follows_makePrivateDeleteDirectory :
    Follows expected (fun _ φ => φ = .fresh) Raises makePrivateDeleteDirectory .fresh := by
  simp [makePrivateDeleteDirectory, DeletePhase.next, Raises, DeletePhase.raises]

/-- The quarantine is opened, and is a directory of this process alone. -/
theorem follows_openPrivateDeleteDirectory :
    Follows expected (fun _ φ => φ = .opened) Raises (openPrivateDeleteDirectory .active true) .fresh := by
  have hcheck : Follows expected (fun _ φ => φ = .opened) Raises
      (rescueAll (checkPrivateDeleteDirectory .active) fun error => do
        act .close
        throw error) .opened := follows_checkOpened (.inr ⟨rfl, rfl⟩)
  rw [openPrivateDeleteDirectory, if_pos rfl, follows_bind]
  refine follows_makePrivateDeleteDirectory.mono ?_ fun _ _ h => h
  rintro _ _ rfl
  simp only [follows_bind, follows_rescue, follows_act, follows_throw, DeletePhase.next, FileError.forall_iff,
    hcheck, Raises, DeletePhase.raises]
  simp

/-- The quarantine of a deletion that was completed is opened in the same way. -/
theorem follows_openCompletedDirectory :
    Follows expected (fun _ φ => φ = .finished) Raises (openPrivateDeleteDirectory .completed false)
      .finished := by
  have hcheck : Follows expected (fun _ φ => φ = .finished) Raises
      (rescueAll (checkPrivateDeleteDirectory .completed) fun error => do
        act .close
        throw error) .finished := follows_checkOpened (.inl ⟨rfl, rfl⟩)
  rw [openPrivateDeleteDirectory, if_neg Bool.false_ne_true, follows_bind]
  simp only [follows_rescue, follows_act, follows_throw, DeletePhase.next, FileError.forall_iff, hcheck,
    Raises, DeletePhase.raises]
  simp

/-- It is emptied and removed. -/
theorem follows_clearCompletedDirectory :
    Follows expected (fun _ φ => φ = .recovered) Raises clearCompletedDirectory .finished := by
  simp [clearCompletedDirectory, DeletePhase.next, Raises, DeletePhase.raises]

/-- What is left of a completed deletion is removed first. -/
theorem follows_recoverCompletedDelete (wanted : Option FileIdentity) :
    Follows expected (fun _ φ => φ.returns = true) Raises (recoverCompletedDelete wanted) .finished := by
  cases wanted with
  | none => exact rfl
  | some wanted =>
    rw [recoverCompletedDelete, follows_bind]
    refine follows_openCompletedDirectory.mono ?_ fun _ _ h => h
    rintro _ _ rfl
    rw [follows_bind]
    refine (follows_close follows_clearCompletedDirectory ?_).mono ?_ fun _ _ h => h
    · rintro _ _ rfl
      constructor <;> exact DeletePhase.noConfusion
    · rintro _ _ rfl
      simp [DeletePhase.next, DeletePhase.returns]

/-- The calls of a deletion belong to their phases, and it ends where it may. -/
theorem follows_secureUnlink (request : UnlinkRequest) (hexpected : request.expectedIdentity = expected) :
    Follows expected (fun _ φ => φ.returns = true) Raises (secureUnlinkRegularBeneath request) .closed := by
  rw [secureUnlinkRegularBeneath]
  cases request.refused with
  | some message => exact rfl
  | none =>
    have hparents : Follows expected (fun _ φ => φ = .closed) Raises
        (pinnedParentDirectory request.parents) .closed := by
      rw [pinnedParentDirectory, follows_bind]
      refine (follows_openComponent _ _).mono ?_ fun _ _ h => h
      rintro _ _ rfl
      exact follows_openParents _
    have hdelete : Follows expected (fun _ φ => φ.returns = true) Raises
        (do
          openPrivateDeleteDirectory .active true
          finally' (deleteFromQuarantine request) (act .close)) .fresh := by
      rw [follows_bind]
      refine follows_openPrivateDeleteDirectory.mono ?_ fun _ _ h => h
      rintro _ _ rfl
      refine follows_close (follows_deleteFromQuarantine request hexpected) ?_
      rintro _ φ hreturns
      constructor <;> rintro rfl <;> cases hreturns
    dsimp only
    rw [follows_bind]
    refine hparents.mono ?_ fun _ _ h => h
    rintro _ _ rfl
    have hrecover : Follows expected (fun _ φ => φ.returns = true) Raises
        (recoverCompletedDelete request.expectedIdentity) .finished := follows_recoverCompletedDelete _
    simp only [follows_bind] at hdelete
    simp [entryExists, DeletePhase.next, hdelete, hrecover, Raises, DeletePhase.raises]

end Deletion

/-- The deletions with one token and one expected identity. -/
def deletions (expected : Option FileIdentity) (_ : MediaDirectory) (p : Deletion FileIdentity) : Prop :=
  ∃ request : UnlinkRequest, request.expectedIdentity = expected ∧
    p = Deletion.secureUnlinkRegularBeneath request

namespace Deletion

variable {expected : Option FileIdentity}

/-- What the phases mean for the directory holds where the deletion ends, and its calls do what is
    asked of them. -/
theorem meets_secureUnlink {S : Setting MediaDirectory FileCall FileCall.Answer}
    {G : MediaDirectory → MediaDirectory → Prop} {Means : DeletePhase → MediaDirectory → Prop}
    (hothers : ∀ φ w w', Means φ w → S.others w w' → Means φ w')
    (hcalls : ∀ φ w o r w', Means φ w → S.answers w o r w' → φ.next expected o r ≠ .wrong →
      G w w' ∧ Means (φ.next expected o r) w')
    (request : UnlinkRequest) (hexpected : request.expectedIdentity = expected) {w : MediaDirectory}
    (hclosed : Means .closed w) :
    Script.Meets S G (fun _ w => ∃ φ : DeletePhase, φ.returns = true ∧ Means φ w)
      (fun e w => ∃ φ, Raises e φ ∧ Means φ w) (secureUnlinkRegularBeneath request) w :=
  (follows_secureUnlink request hexpected).simulates hothers
    (fun φ w o r w' hmeans hanswers => ⟨φ.next expected o r, rfl, hcalls φ w o r w' hmeans hanswers⟩)
    hclosed

end Deletion

end Subgen

import Subgen.Deletion.Files

/-!
# The deletion of a media file

`secure_unlink_regular_beneath`: the file is renamed into a private directory, looked at again
there, marked for deletion by a tombstone and unlinked. A run that is stopped is resumed by the
next one with the same token, from what stands in the private directories.

The functions are those of the source, call by call. A file that does not pass as the expected
one is put back by `restoreQuarantinedCandidate`, with a link and an unlink.

A deletion is a script of the calls that it makes (`Deletion`), which says what comes behind each answer, so
that it can be stopped before any of them, and the file may be changed by somebody else in between. What
goes on inside a handler is a part of the script: `rescue` and `rescueUnsafe` for the two kinds of `except`,
and `finally'` for what is done in any case. The errors are those of the source, with its texts.

* `attempt`, `act`: one call, and what is raised if it fails;
* `openPrivateDeleteDirectory`, `ensureDeleteTombstone`, `completePrivateDelete`: the steps of a deletion;
* `recoverCompletedDelete`: what is done for a run that was stopped at its end.
-/

namespace Subgen

/-- `OSError`, and the three kinds of `UnsafePathError`. -/
inductive UnlinkError
  | os (error : FileError)
  | unsafePath (message : String)
  | unavailable (message : String)
  | recoveryRequired (message : String)
  deriving DecidableEq

/-- A deletion, as the calls that it makes one after the other. -/
abbrev Deletion (α : Type) := Script FileCall FileCall.Answer UnlinkError α

/-- What a deletion is called with: what the checks of the token and the paths refuse it with, if
    they do, how many directories there are between the media root and the file, and what is expected
    of the file. -/
structure UnlinkRequest where
  refused : Option String
  parents : ℕ
  expectedIdentity : Option FileIdentity
  expectedSize : Option ℤ
  activeName : String

namespace Deletion

/-- A call that raises if it fails. -/
def attempt (o : FileCall) : Deletion o.Reply := do
  match ← Script.ask o with
  | .ok reply => pure reply
  | .error error => throw (.os error)

/-- A call whose answer is not used. -/
def act (a : FileAct) : Deletion Unit := attempt (.act a)

/-- `except OSError`. -/
def rescue {α : Type} (p : Deletion α) (handler : FileError → Deletion α) : Deletion α :=
  tryCatch p fun
    | .os error => handler error
    | error => throw error

/-- `except UnsafePathError`. -/
def rescueUnsafe {α : Type} (p : Deletion α) (handler : Deletion α) : Deletion α :=
  tryCatch p fun
    | .os error => throw (.os error)
    | _ => handler

/-- `except` and `raise`, or `finally`, with what is done before. -/
def rescueAll {α : Type} (p : Deletion α) (handler : UnlinkError → Deletion α) : Deletion α :=
  tryCatch p handler

/-- `try … finally`. -/
def finally' {α : Type} (p : Deletion α) (q : Deletion Unit) : Deletion α := do
  let a ← tryCatch p fun error => do
    q
    throw error
  q
  pure a

/-- `_entry_exists`. -/
def entryExists (name : EntryName) : Deletion Bool :=
  rescue (do act (.find name); pure true) fun
    | .notFound => pure false
    | _ => throw (.unsafePath "Could not inspect private delete path")

/-- `_pinned_parent_directory`: the media root, or a directory beneath it. -/
def openComponent (missing refused : String) : Deletion Unit :=
  rescue (act .openComponent) fun
    | .notFound => throw (.unavailable missing)
    | _ => throw (.unsafePath refused)

/-- The parents of the candidate, opened one by one. -/
def openParents : ℕ → Deletion Unit
  | 0 => pure ()
  | n + 1 => do
    openComponent "Candidate parent is unavailable"
      "Refusing unsafe path component beneath media root"
    openParents n

/-- `_pinned_parent_directory`. -/
def pinnedParentDirectory (parents : ℕ) : Deletion Unit := do
  openComponent "Media root is unavailable" "Refusing unsafe media root"
  openParents parents

/-- `_expected_file_size`. -/
def expectedFileSize : Option ℤ → Deletion (Option ℤ)
  | none => pure none
  | some size => if size < 0 then throw (.unsafePath "Invalid expected file size") else pure (some size)

/-- `_validated_leaf_identity`. -/
def validatedLeafIdentity (place : FilePlace) (expectedIdentity : Option FileIdentity)
    (expectedSize : Option ℤ) : Deletion FileIdentity := do
  let wantedSize ← expectedFileSize expectedSize
  let stat ← rescue (attempt (.stat place)) fun
    | .notFound => throw (.unavailable "Candidate is unavailable")
    | _ => throw (.unsafePath "Refusing unsafe path: candidate is unavailable")
  if !stat.regular then
    throw (.unsafePath "Refusing to operate on anything except a regular file")
  else if expectedIdentity.any (stat.identity ≠ ·) then
    throw (.unsafePath "Refusing file because its identity changed")
  else if wantedSize.any (stat.identity.size ≠ ·) then
    throw (.unsafePath "Refusing file because its size changed")
  else
    pure stat.identity

end Deletion

/-- The identities of a file before and after a rename. -/
def FileIdentity.Stable (current wanted : FileIdentity) : Prop :=
  current.device = wanted.device ∧ current.inode = wanted.inode ∧ current.size = wanted.size ∧
    current.mtime = wanted.mtime

instance (current wanted : FileIdentity) : Decidable (current.Stable wanted) :=
  inferInstanceAs (Decidable (_ ∧ _))

namespace Deletion

/-- `_validated_quarantined_identity`. -/
def validatedQuarantinedIdentity (expectedIdentity : Option FileIdentity) (expectedSize : Option ℤ) :
    Deletion FileIdentity := do
  match expectedIdentity with
  | none => throw (.unsafePath "Quarantined candidate lacked a durable identity")
  | some wanted =>
    let current ← validatedLeafIdentity .candidate none expectedSize
    if ¬ current.Stable wanted ∨ current.ctime < wanted.ctime then
      throw (.unsafePath "Refusing file because its identity changed")
    else
      pure wanted

/-- `_open_private_delete_directory`: the directory is made. -/
def makePrivateDeleteDirectory : Deletion Unit := do
  match ← Script.ask (.act .mkdir) with
  | .ok _ =>
    rescue (act .fsync) fun _ => throw (.unsafePath "Could not persist private delete quarantine")
  | .error .exists => pure ()
  | .error _ => throw (.unsafePath "Could not create private delete quarantine")

/-- `_open_private_delete_directory`: what is opened is checked. -/
def checkPrivateDeleteDirectory (name : QuarantineName) : Deletion Unit := do
  let isPrivate ← attempt (.fstat name)
  if !isPrivate then
    throw (.unsafePath "Delete quarantine must be a private directory owned by the service user")
  else
    let unexpected ← attempt (.listdir name)
    if unexpected then throw (.unsafePath "Delete quarantine contains unexpected entries") else pure ()

/-- `_open_private_delete_directory`. -/
def openPrivateDeleteDirectory (name : QuarantineName) (create : Bool) : Deletion Unit := do
  if create then makePrivateDeleteDirectory else pure ()
  rescue (act (.openDirectory name)) fun
    | .notFound => throw (.unavailable "Delete quarantine is unavailable")
    | _ => throw (.unsafePath "Refusing unsafe delete quarantine")
  rescueAll (checkPrivateDeleteDirectory name) fun error => do
    act .close
    throw error

/-- `_restore_quarantined_candidate`. -/
def restoreQuarantinedCandidate (quarantineName : String) : Deletion Unit := do
  rescue (act .link) fun
    | .exists => throw (.unsafePath ("Candidate changed during deletion; the raced file was preserved in "
        ++ quarantineName ++ "/candidate"))
    | _ => throw (.unsafePath ("Could not restore the quarantined candidate; it remains in "
        ++ quarantineName ++ "/candidate"))
  rescue (act .unlinkCandidate) fun _ =>
    throw (.unsafePath ("Candidate was restored, but its private quarantine hardlink remains in "
      ++ quarantineName ++ "/candidate"))
  rescue (do act .fsync; act .fsync) fun _ =>
    throw (.recoveryRequired "Candidate restore requires recovery to confirm directory durability")

/-- `_ensure_delete_tombstone`. -/
def ensureDeleteTombstone : Deletion Unit := do
  match ← Script.ask (.act .createTombstone) with
  | .ok _ => finally' (act .fsync) (act .close)
  | .error .exists =>
    let marker ← rescue (attempt .statTombstone) fun _ =>
      throw (.unsafePath "Could not validate delete tombstone")
    if !marker.1 ∨ marker.2 ≠ 0 then throw (.unsafePath "Refusing invalid delete tombstone") else pure ()
  | .error _ => throw (.unsafePath "Could not create delete tombstone")
  rescue (act .fsync) fun _ => throw (.unsafePath "Could not persist delete tombstone")

/-- `_complete_private_delete`, behind the rename. -/
def cleanCompletedDirectory : Deletion Unit := do
  rescue (act .fsync) fun _ => pure ()
  let cleaned ← rescue (do
    let tombstone ← entryExists (.tombstone .completed)
    if tombstone then act .unlinkTombstone else pure ()
    act .fsync
    pure true) fun _ => pure false
  if cleaned then rescue (act .rmdir) fun _ => pure () else pure ()

/-- `_complete_private_delete`. -/
def completePrivateDelete : Deletion Unit := do
  let completed ← entryExists .completed
  if completed then pure ()
  else
    let renamed ← rescue (do act .renameDirectory; pure true) fun _ => pure false
    if renamed then cleanCompletedDirectory else pure ()

/-- `_recover_completed_delete`, with the directory open. -/
def clearCompletedDirectory : Deletion Unit := do
  let candidate ← entryExists (.candidate .completed)
  if candidate then throw (.unsafePath "Completed delete quarantine still contains a candidate")
  else
    rescue (act .fsync) fun _ =>
      throw (.recoveryRequired "Completed quarantine could not prove candidate absence")
    let tombstone ← entryExists (.tombstone .completed)
    if tombstone then rescue (act .unlinkTombstone) fun _ => pure () else pure ()

/-- `_recover_completed_delete`. -/
def recoverCompletedDelete (expectedIdentity : Option FileIdentity) : Deletion FileIdentity := do
  match expectedIdentity with
  | none => throw (.unsafePath "Completed deletion lacked a durable file identity")
  | some wanted =>
    openPrivateDeleteDirectory .completed false
    finally' clearCompletedDirectory (act .close)
    rescue (act .rmdir) fun _ => pure ()
    pure wanted

/-- What is done with a tombstone and no candidate. -/
def resumeMarkedDelete (expectedIdentity : Option FileIdentity) : Deletion FileIdentity := do
  match expectedIdentity with
  | none => throw (.unsafePath "Completed deletion lacked a durable file identity")
  | some current =>
    rescue (act .fsync) fun _ =>
      throw (.recoveryRequired "Tombstone recovery could not prove candidate absence")
    completePrivateDelete
    pure current

/-- The rename of the leaf, and what is seen behind it. -/
def quarantineCandidate (request : UnlinkRequest) : Deletion FileIdentity := do
  let current ← validatedLeafIdentity .leaf request.expectedIdentity request.expectedSize
  rescue (act .renameLeaf) fun
    | .notFound => throw (.unavailable "Candidate disappeared before quarantine")
    | _ => throw (.unsafePath "Could not quarantine candidate")
  rescue (do act .fsync; act .fsync) fun _ => do
    rescueUnsafe (restoreQuarantinedCandidate request.activeName)
      (throw (.recoveryRequired "Quarantine move requires recovery; candidate remains protected"))
    throw (.unsafePath "Quarantine move was restored because directory sync failed")
  rescueAll (validatedQuarantinedIdentity (some current) request.expectedSize) fun error => do
    rescueUnsafe (restoreQuarantinedCandidate request.activeName)
      (throw (.recoveryRequired "Candidate race requires recovery from private quarantine"))
    throw error

/-- The candidate is unlinked, behind its tombstone. -/
def deleteCandidate (request : UnlinkRequest) (current : FileIdentity) : Deletion FileIdentity := do
  rescueAll ensureDeleteTombstone fun _ =>
    throw (.recoveryRequired "Delete preparation requires recovery from private quarantine")
  rescue (act .unlinkCandidate) fun _ =>
    throw (.recoveryRequired ("Secure unlink failed; candidate remains in private quarantine "
      ++ request.activeName ++ "/candidate"))
  rescue (act .fsync) fun _ =>
    throw (.recoveryRequired "Candidate was unlinked but quarantine durability requires recovery")
  completePrivateDelete
  pure current

/-- `secure_unlink_regular_beneath`, with the quarantine open. -/
def deleteFromQuarantine (request : UnlinkRequest) : Deletion FileIdentity := do
  let quarantined ← entryExists (.candidate .active)
  let tombstone ← entryExists (.tombstone .active)
  if tombstone && !quarantined then resumeMarkedDelete request.expectedIdentity
  else do
    let current ←
      if quarantined then validatedQuarantinedIdentity request.expectedIdentity request.expectedSize
      else quarantineCandidate request
    deleteCandidate request current

/-- `secure_unlink_regular_beneath`. -/
def secureUnlinkRegularBeneath (request : UnlinkRequest) : Deletion FileIdentity := do
  match request.refused with
  | some message => throw (.unsafePath message)
  | none =>
    pinnedParentDirectory request.parents
    let completed ← entryExists .completed
    if completed then recoverCompletedDelete request.expectedIdentity
    else
      openPrivateDeleteDirectory .active true
      finally' (deleteFromQuarantine request) (act .close)

end Deletion

/-! ## A directory with one file -/

/-- Files that differ in the inode. -/
def mediaFiles (f : ℕ) : FileInfo := ⟨.regular, 1, f, 700, 5⟩

/-- A directory that holds the file and nothing else. -/
def mediaDirectory (f : ℕ) : MediaDirectory where
  available := true
  leaf := some f
  active := none
  completed := none
  ctime _ := 6
  validated := none
  owed := [f]
  unlinked := []

/-- File 0 is to be deleted. -/
def mediaRequest : UnlinkRequest where
  refused := none
  parents := 1
  expectedIdentity := some ⟨1, 0, 700, 5, 6⟩
  expectedSize := some 700
  activeName := ".subgen-delete-0"

/-- The calls of a deletion, none of which fails; each at its time. -/
def performAt (w : MediaDirectory) (now : ℤ) (o : FileCall) : o.Answer × MediaDirectory :=
  w.perform mediaFiles { now } o

end Subgen

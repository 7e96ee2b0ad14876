import Mathlib.Data.Int.Notation
import Mathlib.Data.Nat.Notation
import Subgen.Lib.Script
import Subgen.Lib.Storage

/-!
# The files of a deletion

The directory of a media file while it is deleted: the file at its own name (the *leaf*), and the
private directories `.subgen-delete-<token>` and `.subgen-deleted-<token>`. Files are numbered;
of a file only `ctime` changes here, which a rename, a link or an unlink may advance.

A call of the system either fails and does nothing (`Chance.fault`), or it does what the
directory makes of it (`MediaDirectory.run`). The last three fields are not in any directory;
they are there to speak about runs.
-/

namespace Subgen

/-- `FileIdentity`. -/
structure FileIdentity where
  device : ℤ
  inode : ℤ
  size : ℤ
  mtime : ℤ
  ctime : ℤ
  deriving DecidableEq

/-- What a file is, as far as the deletion looks. -/
inductive FileKind
  | regular
  | symlink
  | directory
  | other
  deriving DecidableEq

/-- What does not change of a file. -/
structure FileInfo where
  kind : FileKind
  device : ℤ
  inode : ℤ
  size : ℤ
  mtime : ℤ

/-- What `os.stat` says of a file. -/
structure FileStat where
  regular : Bool
  identity : FileIdentity

/-- A private directory of a deletion: its entries, and whether it passes as private. A tombstone
    is a regular file or not, of some size. -/
structure Quarantine where
  candidate : Option ℕ
  tombstone : Option (Bool × ℤ)
  isPrivate : Bool
  unexpected : Bool

/-- `os.rmdir` would succeed. -/
def Quarantine.isEmpty (q : Quarantine) : Bool :=
  q.candidate.isNone && q.tombstone.isNone && !q.unexpected

/-- The directory of the media file, with its two quarantine directories. -/
structure MediaDirectory where
  available : Bool
  leaf : Option ℕ
  active : Option Quarantine
  completed : Option Quarantine
  ctime : ℕ → ℤ
  /-- The identity that was last seen at the leaf. -/
  validated : Option FileIdentity
  /-- What stood at the leaf, and was not taken from there by others since it last did. -/
  owed : List ℕ
  /-- What was unlinked from the quarantine, with what was last seen at the leaf. -/
  unlinked : List (ℕ × Option FileIdentity)

/-- The two directories. -/
inductive QuarantineName
  | active
  | completed
  deriving DecidableEq

/-- The names that are looked up. -/
inductive EntryName
  | completed
  | candidate (directory : QuarantineName)
  | tombstone (directory : QuarantineName)
  deriving DecidableEq

/-- Where a file is looked at. -/
inductive FilePlace
  | leaf
  | candidate
  deriving DecidableEq

/-- The calls that return nothing of interest. A directory that has been renamed goes by its new
    name, also where the source has a descriptor of it. -/
inductive FileAct
  | openComponent
  | find (name : EntryName)
  | mkdir
  | openDirectory (name : QuarantineName)
  | createTombstone
  | renameLeaf
  | link
  | unlinkCandidate
  | unlinkTombstone
  | renameDirectory
  | rmdir
  | fsync
  | close
  deriving DecidableEq

/-- The calls. -/
inductive FileCall
  | act (a : FileAct)
  | stat (place : FilePlace)
  | statTombstone
  | fstat (name : QuarantineName)
  | listdir (name : QuarantineName)
  deriving DecidableEq

/-- What a call returns: a stat, whether a directory is private, or has unexpected entries. -/
abbrev FileCall.Reply : FileCall → Type
  | .act _ => Unit
  | .stat _ => FileStat
  | .statTombstone => Bool × ℤ
  | .fstat _ => Bool
  | .listdir _ => Bool

/-- What a call ends with: its reply or an `OSError`. -/
abbrev FileCall.Answer (o : FileCall) : Type := Except FileError o.Reply

/-- What is left open in one call: whether it fails, and the time. -/
structure Chance where
  fault : Bool := false
  now : ℤ := 0

namespace MediaDirectory

variable (files : ℕ → FileInfo) (now : ℤ) (w : MediaDirectory)

/-- `file_identity`. -/
def identity (f : ℕ) : FileIdentity where
  device := (files f).device
  inode := (files f).inode
  size := (files f).size
  mtime := (files f).mtime
  ctime := w.ctime f

/-- `os.stat` of a file that is there. -/
def statOf (f : ℕ) : FileStat := ⟨(files f).kind = .regular, w.identity files f⟩

/-- A file that is touched gets a new `ctime`. -/
def touched (f : ℕ) : ℕ → ℤ := fun g => if g = f then now else w.ctime g

/-- The quarantine directory of a name. -/
def directory : QuarantineName → Option Quarantine
  | .active => w.active
  | .completed => w.completed

/-- The candidate of the active quarantine. -/
def candidate : Option ℕ := w.active.bind (·.candidate)

/-- An entry of a quarantine directory is there. -/
def has : EntryName → Bool
  | .completed => w.completed.isSome
  | .candidate name => (w.directory name).any (·.candidate.isSome)
  | .tombstone name => (w.directory name).any (·.tombstone.isSome)

/-- Another entry in the active quarantine. -/
def withCandidate (candidate : Option ℕ) : MediaDirectory :=
  { w with active := w.active.map ({ · with candidate := candidate }) }

/-- A quarantine directory that was just made. -/
def emptyQuarantine : Quarantine := ⟨none, none, true, false⟩

/-- `os.stat` of a file that may be there. -/
def statAt (file : Option ℕ) : Except FileError FileStat :=
  match file with
  | none => .error .notFound
  | some f => .ok (w.statOf files f)

/-- What a call does that does not fail for another reason. -/
def runAct : FileAct → Except FileError Unit × MediaDirectory
  | .openComponent => (if w.available then .ok () else .error .notFound, w)
  | .find name => (if w.has name then .ok () else .error .notFound, w)
  | .mkdir =>
    if w.active.isSome then (.error .exists, w)
    else (.ok (), { w with active := some emptyQuarantine })
  | .openDirectory name => (if (w.directory name).isSome then .ok () else .error .notFound, w)
  | .createTombstone =>
    match w.active with
    | none => (.error .notFound, w)
    | some q =>
      if q.tombstone.isSome then (.error .exists, w)
      else (.ok (), { w with active := some { q with tombstone := some (true, 0) } })
  | .renameLeaf =>
    match w.leaf with
    | none => (.error .notFound, w)
    | some f =>
      if w.active.isNone then (.error .notFound, w)
      else if w.candidate = some f then (.ok (), w)
      else (.ok (), { w.withCandidate (some f) with leaf := none, ctime := w.touched now f })
  | .link =>
    match w.candidate with
    | none => (.error .notFound, w)
    | some f =>
      if w.leaf.isSome then (.error .exists, w)
      else if (files f).kind = .directory then (.error .other, w)
      else (.ok (), { w with leaf := some f, ctime := w.touched now f, owed := f :: w.owed })
  | .unlinkCandidate =>
    match w.candidate with
    | none => (.error .notFound, w)
    | some f =>
      if (files f).kind = .directory then (.error .other, w)
      else
        (.ok (), { w.withCandidate none with
          ctime := w.touched now f
          unlinked := (f, w.validated) :: w.unlinked })
  | .unlinkTombstone =>
    match w.completed with
    | none => (.error .notFound, w)
    | some q =>
      if q.tombstone.isSome then (.ok (), { w with completed := some { q with tombstone := none } })
      else (.error .notFound, w)
  | .renameDirectory =>
    match w.active with
    | none => (.error .notFound, w)
    | some q =>
      if w.completed.all (·.isEmpty) then (.ok (), { w with active := none, completed := some q })
      else (.error .other, w)
  | .rmdir =>
    match w.completed with
    | none => (.error .notFound, w)
    | some q =>
      if q.isEmpty then (.ok (), { w with completed := none }) else (.error .other, w)
  | .fsync => (.ok (), w)
  | .close => (.ok (), w)

/-- What a call does that does not fail for another reason. -/
def run : (o : FileCall) → o.Answer × MediaDirectory
  | .act a => w.runAct files now a
  | .stat .leaf =>
    (w.statAt files w.leaf, { w with
      validated := (w.leaf.map (w.identity files)).or w.validated })
  | .stat .candidate => (w.statAt files w.candidate, w)
  | .statTombstone => ((w.active.bind (·.tombstone)).elim (.error .notFound) .ok, w)
  | .fstat name => ((w.directory name).elim (.error .other) fun q => .ok q.isPrivate, w)
  | .listdir name => ((w.directory name).elim (.error .other) fun q => .ok q.unexpected, w)

/-- What a call does. -/
def perform (x : Chance) (o : FileCall) : o.Answer × MediaDirectory :=
  if x.fault then (.error .other, w) else w.run files x.now o

/-- Another process puts a file at the leaf, or takes it away, or replaces it. What it took from
    the leaf is no longer owed. -/
def replaced (leaf : Option ℕ) : MediaDirectory :=
  { w with
    leaf := leaf
    owed := leaf.toList ++ w.owed.filter fun f => w.leaf ≠ some f }

/-- The file has an entry. -/
def HasEntry (f : ℕ) : Prop :=
  w.leaf = some f ∨ w.candidate = some f ∨ w.completed.bind (·.candidate) = some f

/-! ## What a call can do -/

/-- The calls by what they can do. An answer that is an error leaves the directory as it is, and says
    nothing, except where an entry is looked for. -/
inductive Performs : MediaDirectory → (o : FileCall) → o.Answer → MediaDirectory → Prop
  | fails (w : MediaDirectory) {o : FileCall} (e : FileError) (ho : ∀ name, o ≠ .act (.find name)) :
      Performs w o (.error e) w
  | findFails (w : MediaDirectory) (name : EntryName) : Performs w (.act (.find name)) (.error .other) w
  | finds {w : MediaDirectory} {name : EntryName} (h : w.has name = true) :
      Performs w (.act (.find name)) (.ok ()) w
  | misses {w : MediaDirectory} {name : EntryName} (h : w.has name = false) :
      Performs w (.act (.find name)) (.error .notFound) w
  | opensComponent (w : MediaDirectory) : Performs w (.act .openComponent) (.ok ()) w
  | opensDirectory {w : MediaDirectory} {name : QuarantineName} (h : (w.directory name).isSome = true) :
      Performs w (.act (.openDirectory name)) (.ok ()) w
  | syncs (w : MediaDirectory) : Performs w (.act .fsync) (.ok ()) w
  | closes (w : MediaDirectory) : Performs w (.act .close) (.ok ()) w
  | statsTombstone (w : MediaDirectory) (marker : Bool × ℤ) : Performs w .statTombstone (.ok marker) w
  | fstats (w : MediaDirectory) (name : QuarantineName) (isPrivate : Bool) :
      Performs w (.fstat name) (.ok isPrivate) w
  | lists (w : MediaDirectory) (name : QuarantineName) (unexpected : Bool) :
      Performs w (.listdir name) (.ok unexpected) w
  | statsLeaf {w : MediaDirectory} {f : ℕ} (h : w.leaf = some f) :
      Performs w (.stat .leaf) (.ok (w.statOf files f))
        { w with validated := some (w.identity files f) }
  | statsCandidate {w : MediaDirectory} {f : ℕ} (h : w.candidate = some f) :
      Performs w (.stat .candidate) (.ok (w.statOf files f)) w
  | makes {w : MediaDirectory} (h : w.active = none) :
      Performs w (.act .mkdir) (.ok ()) { w with active := some emptyQuarantine }
  | marks {w : MediaDirectory} {q : Quarantine} (h : w.active = some q) :
      Performs w (.act .createTombstone) (.ok ())
        { w with active := some { q with tombstone := some (true, 0) } }
  | moves {w : MediaDirectory} {f : ℕ} (now : ℤ) (h : w.leaf = some f) (hactive : w.active.isSome = true) :
      Performs w (.act .renameLeaf) (.ok ())
        { w.withCandidate (some f) with leaf := none, ctime := w.touched now f }
  | movesSame {w : MediaDirectory} {f : ℕ} (h : w.leaf = some f) (hcandidate : w.candidate = some f) :
      Performs w (.act .renameLeaf) (.ok ()) w
  | links {w : MediaDirectory} {f : ℕ} (now : ℤ) (h : w.candidate = some f) (hleaf : w.leaf = none)
      (hkind : (files f).kind ≠ .directory) :
      Performs w (.act .link) (.ok ())
        { w with leaf := some f, ctime := w.touched now f, owed := f :: w.owed }
  | unlinks {w : MediaDirectory} {f : ℕ} (now : ℤ) (h : w.candidate = some f) :
      Performs w (.act .unlinkCandidate) (.ok ())
        { w.withCandidate none with
          ctime := w.touched now f
          unlinked := (f, w.validated) :: w.unlinked }
  | unmarks {w : MediaDirectory} {q : Quarantine} (h : w.completed = some q) :
      Performs w (.act .unlinkTombstone) (.ok ())
        { w with completed := some { q with tombstone := none } }
  | renames {w : MediaDirectory} {q : Quarantine} (h : w.active = some q)
      (hcompleted : w.completed.bind (·.candidate) = none) :
      Performs w (.act .renameDirectory) (.ok ()) { w with active := none, completed := some q }
  | removes {w : MediaDirectory} (h : w.completed.bind (·.candidate) = none) :
      Performs w (.act .rmdir) (.ok ()) { w with completed := none }

variable {files} {w}

theorem has_candidate : w.has (.candidate .active) = w.candidate.isSome := by
  rw [has, directory, candidate]
  cases w.active <;> rfl

theorem candidate_eq_none {q : Quarantine} (h : q.isEmpty = true) : q.candidate = none := by
  rw [Quarantine.isEmpty, Bool.and_eq_true, Bool.and_eq_true] at h
  exact Option.isNone_iff_eq_none.1 h.1.1

theorem performs_runAct {now : ℤ} {a : FileAct} {r : Except FileError Unit} {w' : MediaDirectory}
    (h : w.runAct files now a = (r, w')) : Performs files w (.act a) r w' := by
  have hfails : ∀ {a : FileAct} (e : FileError), (∀ name, a ≠ .find name) →
      Performs files w (.act a) (.error e) w := fun e ha => .fails w e fun name heq =>
    ha name (FileCall.act.inj heq)
  cases a with
  | openComponent =>
    rcases hopen : w.available with _ | _ <;> simp only [runAct, hopen] at h <;> cases h
    · exact hfails _ (by simp)
    · exact .opensComponent w
  | find name =>
    rcases hhas : w.has name with _ | _ <;> simp only [runAct, hhas] at h <;> cases h
    · exact .misses hhas
    · exact .finds hhas
  | mkdir =>
    rcases hactive : w.active with _ | q <;> simp only [runAct, hactive] at h <;> cases h
    · exact .makes hactive
    · exact hfails _ (by simp)
  | openDirectory name =>
    rcases hdirectory : (w.directory name).isSome with _ | _ <;>
      simp only [runAct, hdirectory] at h <;> cases h
    · exact hfails _ (by simp)
    · exact .opensDirectory hdirectory
  | createTombstone =>
    rcases hactive : w.active with _ | q <;> simp only [runAct, hactive] at h
    · cases h
      exact hfails _ (by simp)
    · split at h <;> cases h
      · exact hfails _ (by simp)
      · exact .marks hactive
  | renameLeaf =>
    rcases hleaf : w.leaf with _ | f <;> simp only [runAct, hleaf] at h
    · cases h
      exact hfails _ (by simp)
    · split at h
      · cases h
        exact hfails _ (by simp)
      · next hactive =>
        split at h
        · next hcandidate =>
          cases h
          exact .movesSame hleaf hcandidate
        · cases h
          exact .moves now hleaf (by simpa [Option.isSome_iff_ne_none] using hactive)
  | link =>
    rcases hcandidate : w.candidate with _ | f <;> simp only [runAct, hcandidate] at h
    · cases h
      exact hfails _ (by simp)
    · split at h
      · cases h
        exact hfails _ (by simp)
      · next hleaf =>
        split at h
        · cases h
          exact hfails _ (by simp)
        · next hkind =>
          cases h
          exact .links now hcandidate (Option.not_isSome_iff_eq_none.1 hleaf) hkind
  | unlinkCandidate =>
    rcases hcandidate : w.candidate with _ | f <;> simp only [runAct, hcandidate] at h
    · cases h
      exact hfails _ (by simp)
    · split at h <;> cases h
      · exact hfails _ (by simp)
      · exact .unlinks now hcandidate
  | unlinkTombstone =>
    rcases hcompleted : w.completed with _ | q <;> simp only [runAct, hcompleted] at h
    · cases h
      exact hfails _ (by simp)
    · split at h <;> cases h
      · exact .unmarks hcompleted
      · exact hfails _ (by simp)
  | renameDirectory =>
    rcases hactive : w.active with _ | q <;> simp only [runAct, hactive] at h
    · cases h
      exact hfails _ (by simp)
    · split at h <;> cases h
      · next hempty =>
        refine .renames hactive ?_
        rcases hcompleted : w.completed with _ | q'
        · rfl
        · rw [hcompleted] at hempty
          exact candidate_eq_none hempty
      · exact hfails _ (by simp)
  | rmdir =>
    rcases hcompleted : w.completed with _ | q <;> simp only [runAct, hcompleted] at h
    · cases h
      exact hfails _ (by simp)
    · split at h <;> cases h
      · next hempty =>
        refine .removes ?_
        rw [hcompleted]
        exact candidate_eq_none hempty
      · exact hfails _ (by simp)
  | fsync =>
    cases h
    exact .syncs w
  | close =>
    cases h
    exact .closes w

/-- What a call does is one of these. -/
theorem performs_of_perform {x : Chance} {o : FileCall} {r : o.Answer} {w' : MediaDirectory}
    (h : w.perform files x o = (r, w')) : Performs files w o r w' := by
  rw [perform] at h
  split at h
  · -- The call fails, as the environment chose.
    cases h
    cases o with
    | act a =>
      cases a with
      | find name => exact .findFails w name
      | _ => exact .fails w _ (by simp)
    | _ => exact .fails w _ (by simp)
  · cases o with
    | act a => exact performs_runAct h
    | stat place =>
      cases place with
      | leaf =>
        have hrun : (w.statAt files w.leaf, { w with
          validated := (w.leaf.map (w.identity files)).or w.validated }) = (r, w') := h
        obtain ⟨rfl, rfl⟩ := Prod.mk.inj hrun
        rcases hleaf : w.leaf with _ | f
        · have hsame : { w with leaf := none, validated := w.validated } = w := by rw [← hleaf]
          rw [Option.map_none, Option.none_or, hsame]
          exact .fails w _ (by simp)
        · -- Who looks at the leaf has validated it as it is.
          have hseen : Performs files w (.stat .leaf) (.ok (w.statOf files f))
              { w with validated := some (w.identity files f) } := .statsLeaf hleaf
          rw [hleaf] at hseen
          exact hseen
      | candidate =>
        rcases hcandidate : w.candidate with _ | f <;> simp only [run, statAt, hcandidate] at h <;> cases h
        · exact .fails w _ (by simp)
        · exact .statsCandidate hcandidate
    | statTombstone =>
      simp only [run] at h
      rcases htombstone : w.active.bind (·.tombstone) with _ | marker <;> rw [htombstone] at h <;> cases h
      · exact .fails w _ (by simp)
      · exact .statsTombstone w marker
    | fstat name =>
      simp only [run] at h
      rcases hdirectory : w.directory name with _ | q <;> rw [hdirectory] at h <;> cases h
      · exact .fails w _ (by simp)
      · exact .fstats w name _
    | listdir name =>
      simp only [run] at h
      rcases hdirectory : w.directory name with _ | q <;> rw [hdirectory] at h <;> cases h
      · exact .fails w _ (by simp)
      · exact .lists w name _

end MediaDirectory

end Subgen

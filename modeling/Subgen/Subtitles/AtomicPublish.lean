import Subgen.Lib.Procedure
import Subgen.Lib.Utf8
import Subgen.Subtitles.External

/-!
# Publishing a subtitle

`_atomic_publish` without a gate, in the directory of the subtitle, every call of the file system being one
that may raise. The subtitle is written to a staging file beside it, made durable, read back if its text is
asked for, and put in place by `os.replace`.

What the caller writes is arbitrary: any contents of the staging file, one after the other, and then a
return or any exception. The calls that make the directory durable raise nothing but an `OSError`.
-/

namespace Subgen

open Procedure

/-- A file, as far as the publisher sees it. -/
structure StagedFile where
  content : List ℕ
  mode : ℕ
  deriving DecidableEq

/-- An `OSError`. -/
inductive OsError
  | fileNotFound
  | other
  deriving DecidableEq

/-- What is raised: an `OSError`, the error of a text that is no UTF-8, or another exception of the writer. -/
inductive PublishError
  | os (e : OsError)
  | unicode
  | writer
  deriving DecidableEq

/-- The calls of the file system, and the writes of the caller. -/
inductive FsCall
  | mkstemp
  | close
  | write
  | stat
  | chmod
  | openStaged
  | fdopen
  | fsync
  | closeStaged
  | openText
  | read
  | closeText
  | replace
  | openDirectory
  | fsyncDirectory
  | closeDirectory
  | unlink
  deriving DecidableEq

/-- The files of a directory. -/
abbrev Files := Text → Option StagedFile

/-- A call, how it ended, and what is at the path of the subtitle from then on. -/
structure Moment where
  call : FsCall
  error : Option OsError
  published : Option StagedFile

/-- The directory, whether the descriptor of `mkstemp` is still to be closed, and what happened so far, the
    last call first. -/
structure Staging where
  files : Files
  descriptor : Bool
  history : List Moment

/-- What `mkstemp` draws for the name of the staging file, the calls that raise, whether a directory can be
    opened, and what the writer does. -/
structure Publishing where
  baseName : Text
  random : Text
  fails : List Moment → FsCall → Option OsError
  directoryFlag : Bool
  contents : List (Option (List ℕ))
  outcome : Except PublishError Unit

/-- A step of the publisher. -/
abbrev SubtitlePublish := EStateM PublishError Staging

namespace Publishing

variable (P : Publishing)

/-- The name of the staging file. -/
def temporary : Text :=
  let outputExtension := (splitext P.baseName).2
  let stagingSuffix := if outputExtension = [] then text ".tmp" else text ".tmp" ++ outputExtension
  text "." ++ P.baseName ++ text "." ++ P.random ++ stagingSuffix

/-- One call: it raises what it is told to raise, or else does what it does. -/
def fsCall {α : Type} (call : FsCall) (act : Files → Except OsError (α × Files)) : SubtitlePublish α := fun s =>
  match P.fails s.history call with
  | some e => .error (.os e) { s with history := ⟨call, some e, s.files P.baseName⟩ :: s.history }
  | none =>
    match act s.files with
    | .error e => .error (.os e) { s with history := ⟨call, some e, s.files P.baseName⟩ :: s.history }
    | .ok (a, files) => .ok a { s with files, history := ⟨call, none, files P.baseName⟩ :: s.history }

/-- A call that leaves the files as they are. -/
def check (call : FsCall) : SubtitlePublish Unit := P.fsCall call fun files => .ok ((), files)

/-- The files with one of them replaced or removed. -/
def set (files : Files) (name : Text) (file : Option StagedFile) : Files := Function.update files name file

/-- `tempfile.mkstemp`. -/
def mkstemp : SubtitlePublish Unit := P.fsCall .mkstemp fun files =>
  if (files P.temporary).isSome then .error .other
  else .ok ((), set files P.temporary (some ⟨[], 0o600⟩))

/-- A call that needs the staging file. -/
def onStaged {α : Type} (call : FsCall) (act : StagedFile → Files → α × Files) : SubtitlePublish α :=
  P.fsCall call fun files =>
    match files P.temporary with
    | none => .error .fileNotFound
    | some file => .ok (act file files)

/-- A write of the caller: the staging file as it is from then on, if it still exists. -/
def write (content : Option (List ℕ)) : SubtitlePublish Unit := modify fun s =>
  let files := set s.files P.temporary (content.map fun content => ⟨content, 0o600⟩)
  { s with files, history := ⟨.write, none, files P.baseName⟩ :: s.history }

/-- `write_temporary(temporary_path)`. -/
def writeTemporary : SubtitlePublish Unit := do
  P.contents.forM P.write
  ofExcept P.outcome

/-- The mode that the published file had, or else a default. -/
def publishedMode : SubtitlePublish ℕ :=
  tryCatch (P.fsCall .stat fun files =>
      match files P.baseName with
      | none => .error .fileNotFound
      | some file => .ok (file.mode &&& 0o777, files))
    fun
      | .os _ => pure 0o644
      | e => throw e

/-- `os.chmod`, of the temporary file. -/
def chmod (mode : ℕ) : SubtitlePublish Unit :=
  P.onStaged .chmod fun file files => ((), set files P.temporary (some { file with mode }))

/-- `os.replace`. -/
def replace : SubtitlePublish Unit := P.onStaged .replace fun file files =>
  ((), set (set files P.temporary none) P.baseName (some file))

/-- `os.unlink`, of the temporary file. -/
def unlink : SubtitlePublish Unit := P.onStaged .unlink fun _ files => ((), set files P.temporary none)

/-- `try … finally`: what is raised last counts. -/
def withFinally {α : Type} (body : SubtitlePublish α) (final : SubtitlePublish Unit) : SubtitlePublish α := do
  let result ← attempt body
  final
  ofExcept result

/-- The text of the staging file. -/
def stagedPayload : SubtitlePublish Text := do
  P.onStaged .openText fun _ files => ((), files)
  withFinally (do
      let content ← P.onStaged .read fun file files => (file.content, files)
      match decodeUtf8 content with
      | some payload => pure payload
      | none => throw .unicode)
    (P.check .closeText)

/-- `_fsync_parent_directory`; an `OSError` is only logged. -/
def fsyncParentDirectory : SubtitlePublish Unit :=
  if P.directoryFlag then
    tryCatch (do
        P.check .openDirectory
        withFinally (P.check .fsyncDirectory) (P.check .closeDirectory))
      fun
        | .os _ => pure ()
        | e => throw e
  else pure ()

/-- The cleanup of a publication that failed. -/
def cleanup : SubtitlePublish Unit :=
  tryCatch P.unlink fun
    | .os .fileNotFound => pure ()
    | .os .other => pure ()
    | e => throw e

/-- The body of the `try`. -/
def publish (capturePayload : Bool) : SubtitlePublish (Option Text) := do
  P.check .close
  modify fun s => { s with descriptor := false }
  P.writeTemporary
  let mode ← P.publishedMode
  P.chmod mode
  P.onStaged .openStaged fun _ files => ((), files)
  P.check .fdopen
  withFinally (P.check .fsync) (P.check .closeStaged)
  let payload ← (if capturePayload then some <$> P.stagedPayload else pure none)
  P.replace
  P.fsyncParentDirectory
  pure payload

/-- `_atomic_publish`. -/
def atomicPublish (capturePayload : Bool) : SubtitlePublish (Option Text) := do
  P.mkstemp
  modify fun s => { s with descriptor := true }
  withFinally
    (tryCatch (P.publish capturePayload) fun e => do
      P.cleanup
      throw e)
    (do
      let s ← get
      if s.descriptor then P.check .close else pure ())

end Publishing

end Subgen

import Subgen.Failures.Markers
import Subgen.Lib.Interleaving

/-!
# The reader of the failure markers

`FailureMarkerReader.check`, which any threads call while the registry is replaced, removed and made again.
A step of a thread is one call of the system (`readerStep`), so that the registry may be another one at
the next step; the calls of `check` themselves come one after another, as each one holds the lock.

The registry is in a directory that can be searched: it is a file, or it is missing. What is opened is
read to its end also when it is not there any longer, but then `os.fstat` may say anything of it.
-/

namespace Subgen

namespace Failures

/-! ## Files -/

/-- What is looked at of an `os.stat_result`. -/
structure RegistryStat where
  device : ℤ
  inode : ℤ
  size : ℤ
  mtimeNs : ℤ
  mode : ℕ
  nlink : ℤ
  ctimeNs : ℤ
  deriving DecidableEq

/-- `stat.S_ISREG`. -/
def RegistryStat.isRegular (v : RegistryStat) : Bool := v.mode &&& 0o170000 = 0o100000

/-- `_stat_signature`. -/
def statSignature (v : RegistryStat) : List ℤ :=
  [v.device, v.inode, v.size, v.mtimeNs, v.mode, v.nlink, v.ctimeNs]

/-- `_same_opened_snapshot`. -/
def sameOpenedSnapshot (before opened : RegistryStat) : Bool :=
  let stableBefore : List ℤ :=
    [before.device, before.inode, before.size, before.mtimeNs, before.mode, before.nlink]
  let stableOpened : List ℤ :=
    [opened.device, opened.inode, opened.size, opened.mtimeNs, opened.mode, opened.nlink]
  if stableBefore ≠ stableOpened then false else before.ctimeNs = opened.ctimeNs

/-- `file_identity`. -/
def fileIdentity (v : RegistryStat) : List ℤ := [v.device, v.inode, v.size, v.mtimeNs, v.ctimeNs]

/-- A file in the place of the registry, and whether it can be opened. -/
structure RegistryFile where
  stat : RegistryStat
  opens : Bool
  bytes : List ℕ
  deriving DecidableEq

/-- What `_current_registry_signature` returns. -/
inductive RegistrySignature
  | missing
  | present (fields : List ℤ)
  deriving DecidableEq

/-- `_current_registry_signature`. -/
def registrySignature : Option RegistryFile → RegistrySignature
  | none => .missing
  | some file => .present (statSignature file.stat)

/-! ## Paths -/

/-- What a reader is made with, and the working directory. -/
structure ReaderConfig where
  maxBytes : ℕ
  mediaRoot : Text
  cwd : Text

/-- `posixpath.join(a, b)`, of a relative path. -/
def joinPath (a b : Text) : Text :=
  if a = [] ∨ a.getLast? = some 47 then a ++ b else a ++ [47] ++ b

/-- `os.path.abspath(t)`. -/
def absPath (cwd t : Text) : Text :=
  PosixPath.normpath (if PosixPath.isAbsolute t then t else joinPath cwd t)

/-- The components of a path behind another one, as `relative_to` finds them. -/
def relativeParts (path base : Text) : Option (List Text) :=
  if PosixPath.root path = PosixPath.root base ∧ PosixPath.parts base <+: PosixPath.parts path then
    some ((PosixPath.parts path).drop (PosixPath.parts base).length)
  else none

/-- `_container_path`, of a text or of something else. -/
def containerPath (config : ReaderConfig) : Option Text → Option Text
  | none => none
  | some rawPath =>
    if 0 ∈ rawPath ∨ PosixPath.dotdot ∈ PosixPath.parts rawPath then none
    else
      match relativeParts (absPath config.cwd (PosixPath.normpath rawPath))
        (absPath config.cwd (PosixPath.normpath config.mediaRoot)) with
      | none => none
      | some [] => none
      | some (part :: rest) =>
        match canonicalContainerPath (.str (PosixPath.join [47] (text "media" :: part :: rest))) with
        | .ok path => some path.1
        | .error _ => none

example : containerPath ⟨0, text "/srv/../media/", text "/"⟩ (some (text "media//tv/./a.mkv")) =
    some (text "/media/tv/a.mkv") := by
  decide +kernel

/-! ## Decisions -/

/-- What a check finds. -/
inductive CheckStatus
  | matched
  | stale
  | unmarked
  | unavailable
  deriving DecidableEq

/-- A detail is the text of an exception, or one of the code's own. -/
inductive CheckDetail
  | said (text : String)
  | raised (e : MarkerError)
  deriving DecidableEq

/-- `MarkerCheck`. -/
structure MarkerCheck where
  status : CheckStatus
  detail : CheckDetail
  report : Bool
  deriving DecidableEq

/-- What was reported. -/
inductive ReportKey
  | unavailable (path : Text) (e : MarkerError)
  | matched (path : Text) (identity : List ℤ)
  | stale (path : Text) (identity : List ℤ)
  deriving DecidableEq

/-- The state of a reader. The text of an exception is never empty. -/
structure MarkerReader (D : Decimals) where
  cacheSignature : Option RegistrySignature
  markers : List (MarkerEntry D)
  cacheError : Option MarkerError
  reported : List ReportKey

variable {D : Decimals}

/-- A reader that has read nothing yet. -/
def MarkerReader.new : MarkerReader D := ⟨none, [], none, []⟩

/-- A reader forgets what it has cached, but not the signature. -/
def MarkerReader.cleared (r : MarkerReader D) : MarkerReader D :=
  { r with markers := [], cacheError := none, reported := [] }

/-- `_reported_decision`. -/
def MarkerReader.reportedDecision (r : MarkerReader D) (status : CheckStatus) (detail : CheckDetail)
    (key : ReportKey) : MarkerReader D × MarkerCheck :=
  ({ r with reported := r.reported.insert key }, ⟨status, detail, key ∉ r.reported⟩)

/-! ## Threads -/

/-- The registry, what was there before it, and the reader that the threads share. -/
structure RegistryWorld (D : Decimals) where
  registry : Option RegistryFile
  past : List (Option RegistryFile)
  reader : MarkerReader D
  locked : Bool

namespace RegistryWorld

/-- A registry file that no reader has looked at. -/
def new (registry : Option RegistryFile) : RegistryWorld D := ⟨registry, [], .new, false⟩

/-- How often the registry was changed. -/
def version (w : RegistryWorld D) : ℕ := w.past.length

/-- The registry is another one. -/
def changed (w : RegistryWorld D) (registry : Option RegistryFile) : RegistryWorld D :=
  { w with registry := registry, past := w.registry :: w.past }

/-- No registry had the signature. -/
def isNew (w : RegistryWorld D) (file : RegistryFile) : Bool :=
  registrySignature (some file) ∉ (w.registry :: w.past).map registrySignature

end RegistryWorld

/-- A call of `check`, of a path beneath the media root, and the version of the registry when it began. -/
structure CheckCall (config : ReaderConfig) where
  path : Option Text
  container : Text
  inside : containerPath config path = some container
  since : ℕ

/-- One round of `_refresh`: the signature that is current in it, and whether it is the second round. -/
structure RefreshRound (config : ReaderConfig) where
  call : CheckCall config
  signature : RegistrySignature
  retried : Bool

/-- Where a thread stands: before a call of the system, named by what it is about to do. -/
inductive ReaderPoint (D : Decimals) (config : ReaderConfig)
  | free
  | signing (call : CheckCall config)
  -- In `load_marker_document`.
  | inspecting (round : RefreshRound config)
  | opening (round : RefreshRound config) (before : RegistryStat)
  | comparing (round : RefreshRound config) (before : RegistryStat) (file : RegistryFile)
  | reading (round : RefreshRound config) (opened : RegistryStat) (file : RegistryFile) (bytes : List ℕ)
  | finishing (round : RefreshRound config) (opened : RegistryStat) (file : RegistryFile) (bytes : List ℕ)
  -- Behind it.
  | rechecking (round : RefreshRound config) (document : MarkerDocument D)
  | looking (call : CheckCall config) (marker : MarkerEntry D)
  -- With what was found in the place of the candidate, if that was looked at.
  | answered (path : Option Text) (since : ℕ) (candidate : Option (Option RegistryStat)) (check : MarkerCheck)

/-- What the system answers where more than one answer is possible: what it says of a file that is not
    there any longer, how much it reads at once, and what is in the place of a candidate. -/
structure ReaderChance where
  gone : RegistryStat
  size : ℕ
  candidate : Option RegistryStat

/-- What a thread does next. A thread that is in no call may change the registry. -/
inductive ReaderChoice
  | replace (file : RegistryFile)
  | remove
  | check (path : Option Text)
  | proceed (chance : ReaderChance)

section Steps

variable (F : FloatReader) {config : ReaderConfig} (w : RegistryWorld D)

/-- `check`, behind `_refresh`. -/
def afterRefresh (call : CheckCall config) : RegistryWorld D × ReaderPoint D config :=
  match w.reader.cacheError with
  | some e =>
    let (reader, decision) :=
      w.reader.reportedDecision .unavailable (.raised e) (.unavailable call.container e)
    ({ w with reader := reader, locked := false }, .answered call.path call.since none decision)
  | none =>
    match w.reader.markers.find? (·.containerPath = call.container) with
    | none =>
      ({ w with locked := false },
        .answered call.path call.since none ⟨.unmarked, .said "no marker for this path", false⟩)
    | some marker => (w, .looking call marker)

/-- `check`, behind `os.lstat` of the candidate. -/
def afterLook (call : CheckCall config) (marker : MarkerEntry D) (candidate : Option RegistryStat) :
    RegistryWorld D × ReaderPoint D config :=
  let answered := fun (reader : MarkerReader D) (decision : MarkerCheck) =>
    ({ w with reader := reader, locked := false },
      ReaderPoint.answered call.path call.since (some candidate) decision)
  match candidate with
  | none => answered w.reader ⟨.unmarked, .said "candidate is unavailable", false⟩
  | some st =>
    if !st.isRegular then answered w.reader ⟨.unmarked, .said "candidate is not a regular file", false⟩
    else if fileIdentity st = marker.fileIdentity then
      let (reader, decision) := w.reader.reportedDecision .matched (.said "exact file generation is marked")
        (.matched call.container (fileIdentity st))
      answered reader decision
    else
      let (reader, decision) := w.reader.reportedDecision .stale
        (.said "marker identity differs from the current file generation")
        (.stale call.container (fileIdentity st))
      answered reader decision

/-- `_refresh` ends. -/
def cached (call : CheckCall config) (signature : RegistrySignature) (markers : List (MarkerEntry D))
    (error : Option MarkerError) : RegistryWorld D × ReaderPoint D config :=
  afterRefresh { w with reader := { w.reader with
    cacheSignature := some signature
    markers := markers
    cacheError := error } } call

/-- The first part of `_refresh`. -/
def beginRefresh (call : CheckCall config) : RegistryWorld D × ReaderPoint D config :=
  let signature := registrySignature w.registry
  if w.reader.cacheSignature = some signature then afterRefresh w call
  else
    let w := { w with reader := w.reader.cleared }
    if signature = .missing then cached w call .missing [] none
    else (w, .inspecting ⟨call, signature, false⟩)

/-- A round fails with an exception. -/
def failed (round : RefreshRound config) (e : MarkerError) : RegistryWorld D × ReaderPoint D config :=
  cached w round.call round.signature [] (some e)

/-- `load_marker_document`, up to its call of `os.open`. -/
def inspect (round : RefreshRound config) : RegistryWorld D × ReaderPoint D config :=
  if config.maxBytes < 1 then failed w round (.registry "Marker byte limit must be a positive integer")
  else
    match w.registry with
    | none => cached w round.call .missing [] none
    | some file =>
      if !file.stat.isRegular ∨ file.stat.nlink ≠ 1 then
        failed w round (.registry "Marker registry must be a single-link regular file")
      else if config.maxBytes < file.stat.size then
        failed w round (.registry "Marker registry exceeds the byte limit")
      else (w, .opening round file.stat)

/-- `os.open`. -/
def openRegistry (round : RefreshRound config) (before : RegistryStat) :
    RegistryWorld D × ReaderPoint D config :=
  match w.registry with
  | none => failed w round (.registry "Marker registry could not be opened safely")
  | some file =>
    if file.opens then (w, .comparing round before file)
    else failed w round (.registry "Marker registry could not be opened safely")

/-- `os.fstat` of what was opened. -/
def fstat (file : RegistryFile) (gone : RegistryStat) : RegistryStat :=
  if w.registry = some file then file.stat else gone

/-- The first look at what was opened. -/
def compareOpened (round : RefreshRound config) (before opened : RegistryStat) (file : RegistryFile) :
    RegistryWorld D × ReaderPoint D config :=
  if sameOpenedSnapshot before opened then (w, .reading round opened file [])
  else failed w round (.registry "Marker registry changed before it was opened")

/-- What `os.read` returns. It returns nothing at the end of the file only. -/
def readChunk (maxBytes : ℕ) (file : RegistryFile) (bytes : List ℕ) (size : ℕ) : List ℕ :=
  (file.bytes.drop bytes.length).take (max 1 (min size (min (64 * 1024) (maxBytes + 1 - bytes.length))))

/-- One round of the loop that reads. -/
def readRegistry (round : RefreshRound config) (opened : RegistryStat) (file : RegistryFile)
    (bytes : List ℕ) (size : ℕ) : RegistryWorld D × ReaderPoint D config :=
  let chunk := readChunk config.maxBytes file bytes size
  if chunk = [] then (w, .finishing round opened file bytes)
  else if config.maxBytes < (bytes ++ chunk).length then
    failed w round (.registry "Marker registry exceeds the byte limit")
  else (w, .reading round opened file (bytes ++ chunk))

/-- The text of a registry, checked. -/
def parsedRegistry (D : Decimals) (bytes : List ℕ) : Except MarkerError (MarkerDocument D) :=
  match decodeUtf8 bytes >>= fun payload => Json.readText ⟨F, true, true⟩ payload with
  | none => .error (.registry "Marker registry is not valid UTF-8 JSON")
  | some v => validatedDocument D v

/-- The last look at what was opened, and the rest of `load_marker_document`. -/
def finishLoad (round : RefreshRound config) (opened after : RegistryStat) (bytes : List ℕ) :
    RegistryWorld D × ReaderPoint D config :=
  if statSignature after ≠ statSignature opened then
    failed w round (.registry "Marker registry changed while it was read")
  else
    match parsedRegistry F D bytes with
    | .error e => failed w round e
    | .ok document => (w, .rechecking round document)

/-- `_refresh`, behind `load_marker_document`. A second round that finds another registry is the last. -/
def recheck (round : RefreshRound config) (document : MarkerDocument D) :
    RegistryWorld D × ReaderPoint D config :=
  let after := registrySignature w.registry
  if after = round.signature then cached w round.call round.signature document.markers none
  else if after = .missing then cached w round.call .missing [] none
  else if round.retried then
    cached w round.call after [] (some (.registry "marker registry changed while reloading"))
  else (w, .inspecting { round with signature := after, retried := true })

end Steps

/-- The next step of a thread. -/
def readerStep (F : FloatReader) (config : ReaderConfig) (ch : ReaderChoice) (w : RegistryWorld D)
    (l : ReaderPoint D config) : Option (RegistryWorld D × ReaderPoint D config) :=
  match l, ch with
  | .free, .replace file => if w.isNew file then some (w.changed (some file), .free) else none
  | .free, .remove => if w.registry.isSome then some (w.changed none, .free) else none
  | .free, .check path =>
    if w.locked then none
    else
      match h : containerPath config path with
      | none => some (w, .answered path w.version none
          ⟨.unmarked, .said "candidate is outside the media root", false⟩)
      | some container => some ({ w with locked := true }, .signing ⟨path, container, h, w.version⟩)
  | .signing call, .proceed _ => some (beginRefresh w call)
  | .inspecting round, .proceed _ => some (inspect w round)
  | .opening round before, .proceed _ => some (openRegistry w round before)
  | .comparing round before file, .proceed chance =>
    some (compareOpened w round before (fstat w file chance.gone) file)
  | .reading round opened file bytes, .proceed chance =>
    some (readRegistry w round opened file bytes chance.size)
  | .finishing round opened file bytes, .proceed chance =>
    some (finishLoad F w round opened (fstat w file chance.gone) bytes)
  | .rechecking round document, .proceed _ => some (recheck w round document)
  | .looking call marker, .proceed chance => some (afterLook w call marker chance.candidate)
  | .answered _ _ _ _, .proceed _ => some (w, .free)
  | _, _ => none

end Failures

end Subgen

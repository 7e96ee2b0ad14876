import Subgen.Failures.Reader

/-!
# The cache of the markers and the registry

What the reader has cached belongs to the signature it was cached with (`CacheCoherent`): no registry has
the signature of another one, and what a thread has found of a registry is right as long as that one is
there (`Consistent`). The one exception is the registry that a second round comes upon (`spoils`).

* `Good.afterRefresh`, `Good.cached`: how a refresh ends;
* `good_step`: what one step keeps;
* `marker_cache_coherent`: a check answers as a new reader would;
* `not_coherent_replaced_twice`: but not after a registry was replaced twice while it was read.
-/

namespace Subgen

namespace Failures

variable {D : Decimals} {F : FloatReader} {config : ReaderConfig} {w w' : RegistryWorld D}

/-! ## What a new reader finds -/

/-- The markers of a registry that is not changed. -/
def registryContent (D : Decimals) (F : FloatReader) (maxBytes : ℕ) :
    Option RegistryFile → Except MarkerError (List (MarkerEntry D))
  | none => .ok []
  | some file =>
    if maxBytes < 1 then .error (.registry "Marker byte limit must be a positive integer")
    else if !file.stat.isRegular ∨ file.stat.nlink ≠ 1 then
      .error (.registry "Marker registry must be a single-link regular file")
    else if maxBytes < file.stat.size then .error (.registry "Marker registry exceeds the byte limit")
    else if !file.opens then .error (.registry "Marker registry could not be opened safely")
    else if maxBytes < file.bytes.length then .error (.registry "Marker registry exceeds the byte limit")
    else (parsedRegistry F D file.bytes).map MarkerDocument.markers

/-- The status that a new reader finds of a path while the registry and the candidate stay as they are. -/
def freshStatus (D : Decimals) (F : FloatReader) (config : ReaderConfig) (registry : Option RegistryFile)
    (path : Option Text) (candidate : Option RegistryStat) : CheckStatus :=
  match containerPath config path with
  | none => .unmarked
  | some container =>
    match registryContent D F config.maxBytes registry with
    | .error _ => .unavailable
    | .ok markers =>
      match markers.find? (·.containerPath = container), candidate with
      | some marker, some st =>
        if !st.isRegular then .unmarked
        else if fileIdentity st = marker.fileIdentity then .matched
        else .stale
      | _, _ => .unmarked

/-- The markers that a reader has for it, and whether it has an error. -/
def cacheOf : Except MarkerError (List (MarkerEntry D)) → List (MarkerEntry D) × Bool
  | .ok markers => (markers, false)
  | .error _ => ([], true)

/-! ## Invariants -/

/-- The signatures that the registry had. -/
def RegistryWorld.signatures (w : RegistryWorld D) : List RegistrySignature :=
  (w.registry :: w.past).map registrySignature

/-- What is cached with the signature of the registry is what the registry says. A registry may be missing
    again, but no file comes again. -/
structure CacheCoherent (F : FloatReader) (config : ReaderConfig) (w : RegistryWorld D) : Prop where
  known : ∀ signature, w.reader.cacheSignature = some signature → signature ≠ .missing →
    signature ∈ w.signatures
  missing : w.reader.cacheSignature = some .missing →
    (w.reader.markers, w.reader.cacheError.isSome) = ([], false)
  current : w.reader.cacheSignature = some (registrySignature w.registry) →
    (w.reader.markers, w.reader.cacheError.isSome) = cacheOf (registryContent D F config.maxBytes w.registry)

/-- What `load_marker_document` has checked by the time it opens the file. -/
structure Inspected (config : ReaderConfig) (file : RegistryFile) : Prop where
  limit : 1 ≤ config.maxBytes
  regular : file.stat.isRegular = true
  single : file.stat.nlink = 1
  size : file.stat.size ≤ config.maxBytes

/-- What a thread has found out, if the registry of its round is this file. -/
def Consistent (F : FloatReader) (file : RegistryFile) : ReaderPoint D config → Prop
  | .opening _ before => before = file.stat ∧ Inspected config file
  | .comparing _ before opened => before = file.stat ∧ opened = file ∧ file.opens ∧ Inspected config file
  | .reading _ stat opened bytes =>
    stat = file.stat ∧ opened = file ∧ file.opens ∧ Inspected config file ∧ bytes <+: file.bytes ∧
      bytes.length ≤ config.maxBytes
  | .finishing _ stat opened bytes =>
    stat = file.stat ∧ opened = file ∧ file.opens ∧ Inspected config file ∧ bytes = file.bytes ∧
      bytes.length ≤ config.maxBytes
  | .rechecking _ document => registryContent D F config.maxBytes (some file) = .ok document.markers
  | _ => True

/-- The round that a thread is in. -/
def ReaderPoint.round : ReaderPoint D config → Option (RefreshRound config)
  | .inspecting round => some round
  | .opening round _ => some round
  | .comparing round _ _ => some round
  | .reading round _ _ _ => some round
  | .finishing round _ _ _ => some round
  | .rechecking round _ => some round
  | _ => none

/-- The version of the registry when the call of a thread began. -/
def ReaderPoint.since : ReaderPoint D config → Option ℕ
  | .free => none
  | .signing call => some call.since
  | .inspecting round => some round.call.since
  | .opening round _ => some round.call.since
  | .comparing round _ _ => some round.call.since
  | .reading round _ _ _ => some round.call.since
  | .finishing round _ _ _ => some round.call.since
  | .rechecking round _ => some round.call.since
  | .looking call _ => some call.since
  | .answered _ since _ _ => some since

/-- What a thread that is about to answer will say, or has said, of a registry that was not changed. -/
def Answers (F : FloatReader) (registry : Option RegistryFile) : ReaderPoint D config → Prop
  | .looking call marker => ∃ markers, registryContent D F config.maxBytes registry = .ok markers ∧
      markers.find? (·.containerPath = call.container) = some marker
  | .answered path _ candidate check => ∀ st, candidate = none ∨ candidate = some st →
      check.status = freshStatus D F config registry path st
  | _ => True

/-- A thread knows the registry of its call. -/
structure Knows (F : FloatReader) (w : RegistryWorld D) (l : ReaderPoint D config) : Prop where
  since : ∀ since, l.since = some since → since ≤ w.version
  answers : l.since = some w.version → Answers F w.registry l
  seen : ∀ round, l.round = some round → round.signature ∈ w.signatures ∧ round.signature ≠ .missing
  current : ∀ round, l.round = some round → l.since = some w.version →
    round.signature = registrySignature w.registry
  consistent : ∀ round file, l.round = some round → w.registry = some file →
    round.signature = registrySignature (some file) → Consistent F file l

/-- What a step of a thread leaves behind, if it does not change the registry. -/
structure Good (F : FloatReader) (config : ReaderConfig) (w : RegistryWorld D)
    (p : RegistryWorld D × ReaderPoint D config) : Prop where
  coherent : CacheCoherent F config p.1
  knows : Knows F p.1 p.2
  registry : p.1.registry = w.registry
  past : p.1.past = w.past

/-- Only the registry, its past and the cache matter. -/
theorem CacheCoherent.congr (h : CacheCoherent F config w) (hregistry : w'.registry = w.registry)
    (hpast : w'.past = w.past) (hsignature : w'.reader.cacheSignature = w.reader.cacheSignature)
    (hmarkers : w'.reader.markers = w.reader.markers) (herror : w'.reader.cacheError = w.reader.cacheError) :
    CacheCoherent F config w' := by
  have hsignatures : w'.signatures = w.signatures := by
    rw [RegistryWorld.signatures, RegistryWorld.signatures, hregistry, hpast]
  refine ⟨fun signature heq => ?_, fun heq => ?_, fun heq => ?_⟩
  · rw [hsignatures]
    exact h.known signature (hsignature ▸ heq)
  · rw [hmarkers, herror]
    exact h.missing (hsignature ▸ heq)
  · rw [hmarkers, herror, hregistry]
    rw [hsignature, hregistry] at heq
    exact h.current heq

/-- A new reader has cached nothing. -/
theorem coherent_new {registry : Option RegistryFile} :
    CacheCoherent F config (.new registry : RegistryWorld D) := by
  have hnone : ∀ signature, (RegistryWorld.new registry : RegistryWorld D).reader.cacheSignature ≠
      some signature := fun _ => nofun
  exact ⟨fun _ heq => absurd heq (hnone _), fun heq => absurd heq (hnone _), fun heq => absurd heq (hnone _)⟩

/-- A check that has its answer. -/
theorem Knows.answered {path : Option Text} {since : ℕ} {candidate : Option (Option RegistryStat)}
    {check : MarkerCheck} (hsince : since ≤ w.version)
    (hstatus : since = w.version → ∀ st, candidate = none ∨ candidate = some st →
      check.status = freshStatus D F config w.registry path st) :
    Knows F w (.answered path since candidate check : ReaderPoint D config) :=
  ⟨fun _ heq => Option.some.inj heq ▸ hsince, fun heq => hstatus (Option.some.inj heq), nofun, nofun, nofun⟩

/-- Between two checks nothing is known. -/
theorem knows_free : Knows F w (.free : ReaderPoint D config) := ⟨nofun, nofun, nofun, nofun, nofun⟩

/-- A check begins. -/
theorem Knows.signing {call : CheckCall config} (hsince : call.since ≤ w.version) :
    Knows F w (.signing call : ReaderPoint D config) :=
  ⟨fun _ heq => Option.some.inj heq ▸ hsince, fun _ => trivial, nofun, nofun, nofun⟩

/-- A thread begins a round, or it goes on with it. -/
theorem Knows.goOn {l : ReaderPoint D config} {round : RefreshRound config} (hround : l.round = some round)
    (hcall : l.since = some round.call.since) (hsince : round.call.since ≤ w.version)
    (hseen : round.signature ∈ w.signatures ∧ round.signature ≠ .missing)
    (hcurrent : round.call.since = w.version → round.signature = registrySignature w.registry)
    (hanswers : Answers F w.registry l)
    (hconsistent : ∀ file, w.registry = some file → round.signature = registrySignature (some file) →
      Consistent F file l) : Knows F w l where
  since since heq := Option.some.inj (hcall.symm.trans heq) ▸ hsince
  answers _ := hanswers
  seen round' heq := Option.some.inj (hround.symm.trans heq) ▸ hseen
  current round' heq hnow := by
    obtain rfl := Option.some.inj (hround.symm.trans heq)
    exact hcurrent (Option.some.inj (hcall.symm.trans hnow))
  consistent round' file heq := by
    obtain rfl := Option.some.inj (hround.symm.trans heq)
    exact hconsistent file

/-! ## What is read of a file -/

/-- A file that was inspected is read if it is not too large. -/
theorem registryContent_of_inspected {file : RegistryFile} (hfile : Inspected config file) :
    registryContent D F config.maxBytes (some file) =
      if !file.opens then .error (.registry "Marker registry could not be opened safely")
      else if config.maxBytes < file.bytes.length then
        .error (.registry "Marker registry exceeds the byte limit")
      else (parsedRegistry F D file.bytes).map MarkerDocument.markers := by
  have hkind : ¬(!file.stat.isRegular ∨ file.stat.nlink ≠ 1) := by
    rintro (hregular | hsingle)
    · simp [hfile.regular] at hregular
    · exact hsingle hfile.single
  rw [registryContent, if_neg (not_lt.2 hfile.limit), if_neg hkind, if_neg (not_lt.2 hfile.size)]

/-- A file is the same as itself. -/
theorem sameOpenedSnapshot_self (v : RegistryStat) : sameOpenedSnapshot v v = true := by
  simp [sameOpenedSnapshot]

/-- The file that is still there has its own metadata. -/
theorem fstat_of_registry {file : RegistryFile} (hfile : w.registry = some file) (gone : RegistryStat) :
    fstat w file gone = file.stat := if_pos hfile

/-- A file is read to its end when nothing comes any more. -/
theorem readChunk_eq_nil {maxBytes size : ℕ} {file : RegistryFile} {bytes : List ℕ}
    (hpre : bytes <+: file.bytes) (h : readChunk maxBytes file bytes size = []) : bytes = file.bytes := by
  obtain ⟨rest, hrest⟩ := hpre
  rw [readChunk, ← hrest, List.drop_left] at h
  rcases rest with _ | ⟨b, rest⟩
  · rw [← hrest, List.append_nil]
  · have hpos : 1 ≤ max 1 (min size (min (64 * 1024) (maxBytes + 1 - bytes.length))) := le_max_left _ _
    have hlength := congrArg List.length h
    simp at hlength

/-- What is read is a beginning of the file. -/
theorem prefix_readChunk {maxBytes size : ℕ} {file : RegistryFile} {bytes : List ℕ}
    (hpre : bytes <+: file.bytes) : bytes ++ readChunk maxBytes file bytes size <+: file.bytes := by
  obtain ⟨rest, hrest⟩ := hpre
  rw [readChunk, ← hrest, List.drop_left]
  exact (List.prefix_append_right_inj bytes).2 (List.take_prefix _ _)

/-! ## How a refresh ends -/

/-- What a check without a cache would answer, by what the registry holds. -/
theorem freshStatus_inside (call : CheckCall config) (registry : Option RegistryFile)
    (candidate : Option RegistryStat) : freshStatus D F config registry call.path candidate =
      match registryContent D F config.maxBytes registry with
      | .error _ => .unavailable
      | .ok markers =>
        match markers.find? (·.containerPath = call.container), candidate with
        | some marker, some st =>
          if !st.isRegular then .unmarked
          else if fileIdentity st = marker.fileIdentity then .matched
          else .stale
        | _, _ => .unmarked := by
  rw [freshStatus, call.inside]

/-- An error is cached with no markers. -/
theorem content_of_error {content : Except MarkerError (List (MarkerEntry D))}
    {markers : List (MarkerEntry D)} (h : (markers, true) = cacheOf content) : ∃ e, content = .error e := by
  rcases content with e | markers'
  · exact ⟨e, rfl⟩
  · exact absurd (Prod.mk.inj h).2 nofun

/-- Markers are cached without an error. -/
theorem content_of_none {content : Except MarkerError (List (MarkerEntry D))}
    {markers : List (MarkerEntry D)} (h : (markers, false) = cacheOf content) : content = .ok markers := by
  rcases content with e | markers'
  · exact absurd (Prod.mk.inj h).2 nofun
  · rw [(Prod.mk.inj h).1]

/-- Behind a refresh the cache holds what the registry held. -/
theorem Good.afterRefresh (h : CacheCoherent F config w) {call : CheckCall config}
    (hsince : call.since ≤ w.version)
    (hcurrent : call.since = w.version → w.reader.cacheSignature = some (registrySignature w.registry)) :
    Good F config w (afterRefresh w call) := by
  have hcontent := fun hnow => h.current (hcurrent hnow)
  unfold Failures.afterRefresh
  split
  · next e he =>
    refine ⟨h.congr rfl rfl rfl rfl rfl, .answered hsince fun hnow st _ => ?_, rfl, rfl⟩
    have hcached := hcontent hnow
    rw [he, Option.isSome_some] at hcached
    obtain ⟨e', herror⟩ := content_of_error hcached
    rw [freshStatus_inside, herror]
    rfl
  · next hnone =>
    have hok : call.since = w.version →
        registryContent D F config.maxBytes w.registry = .ok w.reader.markers := fun hnow => by
      have hcached := hcontent hnow
      rw [hnone, Option.isSome_none] at hcached
      exact content_of_none hcached
    split
    · next hfind =>
      refine ⟨h.congr rfl rfl rfl rfl rfl, .answered hsince fun hnow st _ => ?_, rfl, rfl⟩
      rw [freshStatus_inside, hok hnow]
      dsimp only
      rw [hfind]
    · next marker hfind =>
      exact ⟨h, ⟨fun _ heq => Option.some.inj heq ▸ hsince,
        fun hnow => ⟨_, hok (Option.some.inj hnow), hfind⟩, nofun, nofun, nofun⟩, rfl, rfl⟩

/-- The cache is used while the signature is the same. -/
theorem Good.cached {call : CheckCall config} {signature : RegistrySignature} {markers : List (MarkerEntry D)}
    {error : Option MarkerError} (hknown : signature ≠ .missing → signature ∈ w.signatures)
    (hmissing : signature = .missing → (markers, error.isSome) = ([], false))
    (hcontent : signature = registrySignature w.registry →
      (markers, error.isSome) = cacheOf (registryContent D F config.maxBytes w.registry))
    (hsince : call.since ≤ w.version)
    (hcurrent : call.since = w.version → signature = registrySignature w.registry) :
    Good F config w (cached w call signature markers error) := by
  have hcoherent : CacheCoherent F config { w with reader := { w.reader with
      cacheSignature := some signature
      markers := markers
      cacheError := error } } :=
    ⟨fun _ heq => Option.some.inj heq ▸ hknown, fun heq => hmissing (Option.some.inj heq),
      fun heq => hcontent (Option.some.inj heq)⟩
  have hgood := Good.afterRefresh hcoherent hsince fun hnow => congrArg some (hcurrent hnow)
  exact ⟨hgood.coherent, hgood.knows, hgood.registry, hgood.past⟩

/-- The registry is missing, and that is what is cached. -/
theorem Good.cached_missing {call : CheckCall config} (hmissing : w.registry = none)
    (hsince : call.since ≤ w.version) : Good F config w (Failures.cached w call .missing [] none) :=
  .cached (fun hne => absurd rfl hne) (fun _ => rfl) (fun _ => hmissing ▸ rfl) hsince fun _ => hmissing ▸ rfl

section Rounds

variable {l l' : ReaderPoint D config} {round : RefreshRound config} (hcoherent : CacheCoherent F config w)
  (hknows : Knows F w l) (hround : l.round = some round) (hcall : l.since = some round.call.since)
include hknows hround hcall

/-- An exception is cached with the signature of the round. If that is the registry, it cannot be loaded. -/
theorem Good.failed {e : MarkerError}
    (hcontent : ∀ file, w.registry = some file → round.signature = registrySignature (some file) →
      registryContent D F config.maxBytes (some file) = .error e) : Good F config w (failed w round e) := by
  obtain ⟨hseen, hne⟩ := hknows.seen round hround
  refine .cached (fun _ => hseen) (fun heq => absurd heq hne) (fun heq => ?_) (hknows.since _ hcall)
    fun hnow => hknows.current round hround (hnow ▸ hcall)
  rcases hregistry : w.registry with _ | file
  · rw [hregistry] at heq
    exact absurd heq hne
  · rw [hcontent file hregistry (hregistry ▸ heq)]
    rfl

include hcoherent

/-- A step that leaves the reader and the registry alone. -/
theorem Good.goOn (hround' : l'.round = some round) (hcall' : l'.since = some round.call.since)
    (hanswers : Answers F w.registry l')
    (hconsistent : ∀ file, w.registry = some file → round.signature = registrySignature (some file) →
      Consistent F file l') : Good F config w (w, l') :=
  ⟨hcoherent, .goOn hround' hcall' (hknows.since _ hcall) (hknows.seen round hround)
    (fun hnow => hknows.current round hround (hnow ▸ hcall)) hanswers hconsistent, rfl, rfl⟩

end Rounds

/-! ## The steps -/

/-- A second round comes upon another registry, which could be loaded. -/
def spoils (F : FloatReader) (w : RegistryWorld D) : ReaderPoint D config → Bool
  | .rechecking round _ => round.retried && w.registry.isSome &&
      registrySignature w.registry ≠ round.signature &&
      (registryContent D F config.maxBytes w.registry).toOption.isSome
  | _ => false

section Steps

variable {round : RefreshRound config} (h : CacheCoherent F config w)
include h

/-- A refresh begins. -/
theorem Good.beginRefresh {call : CheckCall config} (hsince : call.since ≤ w.version) :
    Good F config w (beginRefresh w call) := by
  unfold Failures.beginRefresh
  dsimp only
  split
  · next hsame => exact .afterRefresh h hsince fun _ => hsame
  · next hother =>
    -- What was cached belongs to another signature, so that it may be thrown away.
    have hcleared : CacheCoherent F config { w with reader := w.reader.cleared } :=
      ⟨h.known, fun _ => rfl, fun heq => absurd heq hother⟩
    split
    · next hmissing =>
      have hnone : w.registry = none := by
        rcases hregistry : w.registry with _ | file
        · rfl
        · exact absurd (hregistry ▸ hmissing) nofun
      have hgood := Good.cached_missing (F := F) (w := { w with reader := w.reader.cleared }) hnone hsince
      exact ⟨hgood.coherent, hgood.knows, hgood.registry, hgood.past⟩
    · next hne =>
      exact ⟨hcleared, .goOn rfl rfl hsince ⟨List.mem_cons_self, hne⟩ (fun _ => rfl) trivial
        fun _ _ _ => trivial, rfl, rfl⟩

/-- The file is inspected. -/
theorem Good.inspect (hknows : Knows F w (.inspecting round : ReaderPoint D config)) :
    Good F config w (inspect w round) := by
  unfold Failures.inspect
  split
  · next hlimit => exact .failed hknows rfl rfl fun _ _ _ => if_pos hlimit
  · next hlimit =>
    split
    · next hnone => exact .cached_missing hnone (hknows.since _ rfl)
    · next file hfile =>
      have hcontent : ∀ file', w.registry = some file' → file' = file := fun file' hfile' =>
        Option.some.inj (hfile'.symm.trans hfile)
      split
      · next hkind =>
        refine .failed hknows rfl rfl fun file' hfile' _ => ?_
        rw [hcontent file' hfile', registryContent, if_neg hlimit, if_pos hkind]
      · next hkind =>
        split
        · next hsize =>
          refine .failed hknows rfl rfl fun file' hfile' _ => ?_
          rw [hcontent file' hfile', registryContent, if_neg hlimit, if_neg hkind, if_pos hsize]
        · next hsize =>
          refine .goOn h hknows rfl rfl rfl rfl trivial fun file' hfile' _ => ?_
          obtain ⟨hregular, hsingle⟩ := not_or.1 hkind
          rw [hcontent file' hfile']
          exact ⟨rfl, Nat.le_of_not_lt hlimit, by simpa using hregular, not_not.1 hsingle, not_lt.1 hsize⟩

/-- The file is opened. -/
theorem Good.openRegistry {before : RegistryStat}
    (hknows : Knows F w (.opening round before : ReaderPoint D config)) :
    Good F config w (openRegistry w round before) := by
  unfold Failures.openRegistry
  split
  · next hnone => exact .failed hknows rfl rfl fun _ hfile _ => absurd (hnone.symm.trans hfile) nofun
  · next file hfile =>
    have hconsistent := fun hsame => hknows.consistent round file rfl hfile hsame
    have hcontent : ∀ file', w.registry = some file' → file' = file := fun file' hfile' =>
      Option.some.inj (hfile'.symm.trans hfile)
    split
    · next hopens =>
      refine .goOn h hknows rfl rfl rfl rfl trivial fun file' hfile' hsame => ?_
      obtain rfl := hcontent file' hfile'
      obtain ⟨hbefore, hinspected⟩ := hconsistent hsame
      exact ⟨hbefore, rfl, hopens, hinspected⟩
    · next hopens =>
      refine .failed hknows rfl rfl fun file' hfile' hsame => ?_
      obtain rfl := hcontent file' hfile'
      rw [registryContent_of_inspected (hconsistent hsame).2, if_pos (by simpa using hopens)]

/-- The opened file is compared with the inspected one. -/
theorem Good.compareOpened {before : RegistryStat} {opened : RegistryFile} {gone : RegistryStat}
    (hknows : Knows F w (.comparing round before opened : ReaderPoint D config)) :
    Good F config w (compareOpened w round before (fstat w opened gone) opened) := by
  have hconsistent := fun file hfile hsame => hknows.consistent round file rfl hfile hsame
  unfold Failures.compareOpened
  split
  · refine .goOn h hknows rfl rfl rfl rfl trivial fun file hfile hsame => ?_
    obtain ⟨-, rfl, hopens, hinspected⟩ := hconsistent file hfile hsame
    exact ⟨fstat_of_registry hfile gone, rfl, hopens, hinspected, List.nil_prefix, Nat.zero_le _⟩
  · next hchanged =>
    refine .failed hknows rfl rfl fun file hfile hsame => ?_
    obtain ⟨rfl, rfl, -⟩ := hconsistent file hfile hsame
    rw [fstat_of_registry hfile] at hchanged
    exact absurd (sameOpenedSnapshot_self _) hchanged

/-- A part of it is read. -/
theorem Good.readRegistry {opened : RegistryStat} {file : RegistryFile} {bytes : List ℕ} {size : ℕ}
    (hknows : Knows F w (.reading round opened file bytes : ReaderPoint D config)) :
    Good F config w (readRegistry w round opened file bytes size) := by
  have hconsistent := fun file' hfile hsame => hknows.consistent round file' rfl hfile hsame
  unfold Failures.readRegistry
  dsimp only
  split
  · next hend =>
    refine .goOn h hknows rfl rfl rfl rfl trivial fun file' hfile hsame => ?_
    obtain ⟨hstat, rfl, hopens, hinspected, hpre, hlength⟩ := hconsistent file' hfile hsame
    exact ⟨hstat, rfl, hopens, hinspected, readChunk_eq_nil hpre hend, hlength⟩
  · split
    · next hlong =>
      refine .failed hknows rfl rfl fun file' hfile hsame => ?_
      obtain ⟨-, rfl, hopens, hinspected, hpre, -⟩ := hconsistent file' hfile hsame
      have hlonger := hlong.trans_le (prefix_readChunk hpre).length_le
      rw [registryContent_of_inspected hinspected, if_neg (by simpa using hopens), if_pos hlonger]
    · next hshort =>
      refine .goOn h hknows rfl rfl rfl rfl trivial fun file' hfile hsame => ?_
      obtain ⟨hstat, rfl, hopens, hinspected, hpre, -⟩ := hconsistent file' hfile hsame
      exact ⟨hstat, rfl, hopens, hinspected, prefix_readChunk hpre, not_lt.1 hshort⟩

/-- It is compared once more, and decoded. -/
theorem Good.finishLoad {opened : RegistryStat} {file : RegistryFile} {bytes : List ℕ} {gone : RegistryStat}
    (hknows : Knows F w (.finishing round opened file bytes : ReaderPoint D config)) :
    Good F config w (finishLoad F w round opened (fstat w file gone) bytes) := by
  have hconsistent := fun file' hfile hsame => hknows.consistent round file' rfl hfile hsame
  have hparsed : ∀ file', w.registry = some file' → round.signature = registrySignature (some file') →
      registryContent D F config.maxBytes (some file') =
        (parsedRegistry F D bytes).map MarkerDocument.markers := by
    intro file' hfile hsame
    obtain ⟨-, rfl, hopens, hinspected, rfl, hlength⟩ := hconsistent file' hfile hsame
    rw [registryContent_of_inspected hinspected, if_neg (by simpa using hopens), if_neg (not_lt.2 hlength)]
  unfold Failures.finishLoad
  split
  · next hchanged =>
    refine .failed hknows rfl rfl fun file' hfile hsame => ?_
    obtain ⟨rfl, rfl, -⟩ := hconsistent file' hfile hsame
    rw [fstat_of_registry hfile] at hchanged
    exact absurd rfl hchanged
  · split
    · next e he =>
      refine .failed hknows rfl rfl fun file' hfile hsame => ?_
      rw [hparsed file' hfile hsame, he]
      rfl
    · next document hdocument =>
      refine .goOn h hknows rfl rfl rfl rfl trivial fun file' hfile hsame => ?_
      rw [Consistent, hparsed file' hfile hsame, hdocument]
      rfl

/-- The path is looked at again. -/
theorem Good.recheck {document : MarkerDocument D}
    (hknows : Knows F w (.rechecking round document : ReaderPoint D config))
    (hspoils : spoils F w (.rechecking round document : ReaderPoint D config) = false) :
    Good F config w (recheck w round document) := by
  have hsince := hknows.since _ rfl
  obtain ⟨hseen, hne⟩ := hknows.seen round rfl
  unfold Failures.recheck
  dsimp only
  split
  · next hsame =>
    refine .cached (fun _ => hseen) (fun heq => absurd heq hne) (fun _ => ?_) hsince fun _ => hsame.symm
    rcases hregistry : w.registry with _ | file
    · rw [hregistry] at hsame
      exact absurd hsame.symm hne
    · have hcontent := hknows.consistent round file rfl hregistry (hregistry ▸ hsame.symm)
      rw [Consistent] at hcontent
      rw [hcontent]
      rfl
  · next hother =>
    split
    · next hmissing =>
      have hnone : w.registry = none := by
        rcases hregistry : w.registry with _ | file
        · rfl
        · exact absurd (hregistry ▸ hmissing) nofun
      exact .cached_missing hnone hsince
    · next hpresent =>
      split
      · next hretried =>
        -- What it comes upon cannot be loaded, so that the error is right.
        have herror : ∃ e, registryContent D F config.maxBytes w.registry = .error e := by
          rcases hcontent : registryContent D F config.maxBytes w.registry with e | markers
          · exact ⟨e, rfl⟩
          · rcases hregistry : w.registry with _ | file
            · exact absurd (hregistry ▸ rfl) hpresent
            · rw [hregistry] at hother hcontent
              simp [spoils, hretried, hregistry, hother, hcontent, Except.toOption] at hspoils
        obtain ⟨e, he⟩ := herror
        exact .cached (fun _ => List.mem_cons_self) (fun heq => absurd heq hpresent)
          (fun _ => he ▸ rfl) hsince fun _ => rfl
      · exact ⟨h, .goOn rfl rfl hsince ⟨List.mem_cons_self, hpresent⟩ (fun _ => rfl) trivial
          fun _ _ _ => trivial, rfl, rfl⟩

/-- The candidate is looked at, and the check answered. -/
theorem Good.afterLook {call : CheckCall config} {marker : MarkerEntry D} {candidate : Option RegistryStat}
    (hknows : Knows F w (.looking call marker : ReaderPoint D config)) :
    Good F config w (afterLook w call marker candidate) := by
  have hsince := hknows.since _ rfl
  have hfresh : call.since = w.version → ∀ st, some candidate = none ∨ some candidate = some st →
      freshStatus D F config w.registry call.path st =
        candidate.elim .unmarked fun st =>
          if !st.isRegular then .unmarked
          else if fileIdentity st = marker.fileIdentity then .matched
          else .stale := by
    rintro hnow st (hnone | hst)
    · cases hnone
    · obtain ⟨markers, hcontent, hfind⟩ := hknows.answers (congrArg some hnow)
      obtain rfl := Option.some.inj hst
      rw [freshStatus_inside, hcontent]
      dsimp only
      rw [hfind]
      rcases candidate with _ | st <;> rfl
  unfold Failures.afterLook
  dsimp only
  split
  · refine ⟨h.congr rfl rfl rfl rfl rfl, .answered hsince fun hnow st hst => ?_, rfl, rfl⟩
    exact (hfresh hnow st hst).symm
  · split
    · next hspecial =>
      refine ⟨h.congr rfl rfl rfl rfl rfl, .answered hsince fun hnow st hst => ?_, rfl, rfl⟩
      exact ((hfresh hnow st hst).trans (if_pos hspecial)).symm
    · next hregular =>
      split
      · next hsame =>
        refine ⟨h.congr rfl rfl rfl rfl rfl, .answered hsince fun hnow st hst => ?_, rfl, rfl⟩
        exact ((hfresh hnow st hst).trans ((if_neg hregular).trans (if_pos hsame))).symm
      · next hother =>
        refine ⟨h.congr rfl rfl rfl rfl rfl, .answered hsince fun hnow st hst => ?_, rfl, rfl⟩
        exact ((hfresh hnow st hst).trans ((if_neg hregular).trans (if_neg hother))).symm

end Steps

/-! ## What the threads keep -/

/-- What a check knows is of the registry and its past. -/
theorem Knows.congr {l : ReaderPoint D config} (h : Knows F w l) (hregistry : w'.registry = w.registry)
    (hpast : w'.past = w.past) : Knows F w' l := by
  have hversion : w'.version = w.version := congrArg List.length hpast
  have hsignatures : w'.signatures = w.signatures := by
    rw [RegistryWorld.signatures, RegistryWorld.signatures, hregistry, hpast]
  refine ⟨?_, ?_, ?_, ?_, ?_⟩
  · rw [hversion]
    exact h.since
  · rw [hversion, hregistry]
    exact h.answers
  · rw [hsignatures]
    exact h.seen
  · rw [hversion, hregistry]
    exact h.current
  · rw [hregistry]
    exact h.consistent

section Changes

variable {registry : Option RegistryFile}
  (hnew : ∀ file, registry = some file → registrySignature (some file) ∉ w.signatures)
include hnew

/-- A cache that was coherent is so behind a change of the registry. -/
theorem CacheCoherent.changed (h : CacheCoherent F config w) :
    CacheCoherent F config (w.changed registry) where
  known signature heq hne := List.mem_cons_of_mem _ (h.known signature heq hne)
  missing := h.missing
  current heq := by
    rcases registry with _ | file
    · exact h.missing heq
    · exact absurd (h.known _ heq nofun) (hnew file rfl)

/-- What a check knows is of the past then. -/
theorem Knows.changed {l : ReaderPoint D config} (h : Knows F w l) : Knows F (w.changed registry) l := by
  have hversion : (w.changed registry).version = w.version + 1 := rfl
  have hold : l.since ≠ some (w.changed registry).version := fun heq => by
    have hle := h.since _ heq
    omega
  refine ⟨fun since heq => ?_, fun heq => absurd heq hold, fun round hround => ?_,
    fun _ _ heq => absurd heq hold, fun round file hround hfile hsame => ?_⟩
  · have hle := h.since since heq
    omega
  · exact ⟨List.mem_cons_of_mem _ (h.seen round hround).1, (h.seen round hround).2⟩
  · exact absurd (hsame ▸ (h.seen round hround).1) (hnew file hfile)

end Changes

/-- What one step can do. -/
inductive ReaderMove (F : FloatReader) (config : ReaderConfig) (w : RegistryWorld D)
    (l : ReaderPoint D config) : RegistryWorld D → ReaderPoint D config → Prop
  | changed {registry : Option RegistryFile}
    (hnew : ∀ file, registry = some file → registrySignature (some file) ∉ w.signatures) :
    ReaderMove F config w l (w.changed registry) .free
  | moved {p : RegistryWorld D × ReaderPoint D config} (hgood : Good F config w p) :
    ReaderMove F config w l p.1 p.2

/-- Each step keeps the cache coherent. -/
theorem good_step {l l' : ReaderPoint D config} {ch : ReaderChoice} (h : CacheCoherent F config w)
    (hknows : Knows F w l) (hspoils : spoils F w l = false)
    (hstep : readerStep F config ch w l = some (w', l')) : ReaderMove F config w l w' l' := by
  have hmoved : ∀ p, Good F config w p → p = (w', l') → ReaderMove F config w l w' l' := by
    rintro p hgood rfl
    exact .moved hgood
  unfold readerStep at hstep
  split at hstep
  · next file =>
    obtain ⟨hnew, heq⟩ := Option.ite_none_right_eq_some.1 hstep
    obtain ⟨rfl, rfl⟩ := Prod.mk.inj (Option.some.inj heq)
    refine .changed fun file' hfile' => ?_
    obtain rfl := Option.some.inj hfile'
    exact of_decide_eq_true hnew
  · obtain ⟨-, heq⟩ := Option.ite_none_right_eq_some.1 hstep
    obtain ⟨rfl, rfl⟩ := Prod.mk.inj (Option.some.inj heq)
    exact .changed nofun
  · next path =>
    obtain ⟨-, heq⟩ := Option.ite_none_left_eq_some.1 hstep
    split at heq
    · next hnone =>
      refine hmoved _ ⟨h, .answered le_rfl fun _ st _ => ?_, rfl, rfl⟩ (Option.some.inj heq)
      rw [freshStatus, hnone]
    · exact hmoved _ ⟨h.congr rfl rfl rfl rfl rfl, .signing le_rfl, rfl, rfl⟩ (Option.some.inj heq)
  · exact hmoved _ (.beginRefresh h (hknows.since _ rfl)) (Option.some.inj hstep)
  · exact hmoved _ (.inspect h hknows) (Option.some.inj hstep)
  · exact hmoved _ (.openRegistry h hknows) (Option.some.inj hstep)
  · exact hmoved _ (.compareOpened h hknows) (Option.some.inj hstep)
  · exact hmoved _ (.readRegistry h hknows) (Option.some.inj hstep)
  · exact hmoved _ (.finishLoad h hknows) (Option.some.inj hstep)
  · exact hmoved _ (.recheck h hknows hspoils) (Option.some.inj hstep)
  · exact hmoved _ (.afterLook h hknows) (Option.some.inj hstep)
  · exact hmoved _ ⟨h, knows_free, rfl, rfl⟩ (Option.some.inj hstep)
  · cases hstep

/-! ## Runs -/

/-- A check is unavailable if the registry cannot be read. -/
theorem freshStatus_eq_unavailable {registry : Option RegistryFile} {path : Option Text}
    {candidate : Option RegistryStat} (h : freshStatus D F config registry path candidate = .unavailable) :
    ∃ e, registryContent D F config.maxBytes registry = .error e := by
  unfold freshStatus at h
  split at h
  · cases h
  · split at h
    · next e he => exact ⟨e, he⟩
    · split at h
      · split_ifs at h
      · cases h

/-- A check is matched if a marker of the registry matches. -/
theorem freshStatus_eq_matched {registry : Option RegistryFile} {path : Option Text}
    {candidate : Option RegistryStat} (h : freshStatus D F config registry path candidate = .matched) :
    ∃ markers, registryContent D F config.maxBytes registry = .ok markers ∧
      ∃ marker ∈ markers, containerPath config path = some marker.containerPath ∧
        ∃ st, candidate = some st ∧ marker.fileIdentity = fileIdentity st := by
  unfold freshStatus at h
  split at h
  · cases h
  · next container hcontainer =>
    split at h
    · cases h
    · next markers hcontent =>
      split at h
      · next marker st hfind =>
        split_ifs at h with hregular hsame
        have hpath : marker.containerPath = container := by simpa using List.find?_some hfind
        exact ⟨markers, hcontent, marker, List.mem_of_find?_eq_some hfind, hpath ▸ hcontainer, st, rfl,
          hsame.symm⟩
      · cases h

open Interleaving

variable {n : ℕ} {registry : Option RegistryFile} {c : Config (RegistryWorld D) (ReaderPoint D config)}
  {path : Option Text} {candidate : Option (Option RegistryStat)} {check : MarkerCheck}

/-- In every run in which no second round comes upon another registry that could be loaded, a check during
    which the registry is not changed answers as a new reader would. So it finds the registry unavailable
    only if that cannot be loaded, and a match only if there is a marker for just this path and this file. -/
theorem marker_cache_coherent (h : RunsWhen (ofStep (readerStep F config))
      (fun c i => !c.locals[i]?.any (spoils F c.shared)) ⟨.new registry, List.replicate n .free⟩ c)
    (hanswer : .answered path c.shared.version candidate check ∈ c.locals) :
    (∀ st, candidate = none ∨ candidate = some st →
      check.status = freshStatus D F config c.shared.registry path st) ∧
    (check.status = .unavailable → ∃ e, registryContent D F config.maxBytes c.shared.registry = .error e) ∧
    (check.status = .matched → ∃ markers,
      registryContent D F config.maxBytes c.shared.registry = .ok markers ∧
        ∃ marker ∈ markers, containerPath config path = some marker.containerPath ∧
          ∃ st, candidate = some (some st) ∧ marker.fileIdentity = fileIdentity st) := by
  have hinvariant : CacheCoherent F config c.shared ∧ ∀ l ∈ c.locals, Knows F c.shared l := by
    refine h.invariant (I := fun c => CacheCoherent F config c.shared ∧ ∀ l ∈ c.locals, Knows F c.shared l)
      ⟨coherent_new, fun l hl => ?_⟩ ?_
    · obtain rfl := List.eq_of_mem_replicate hl
      exact knows_free
    rintro c c' i l l' ⟨hcoherent, hknows⟩ hspoils hmoves
    obtain ⟨ch, hstep⟩ := hmoves.step
    have hunspoilt : spoils F c.shared l = false := by
      rw [hmoves.thread, Option.any_some, Bool.not_eq_true'] at hspoils
      exact hspoils
    have hl := hknows l (List.mem_of_getElem? hmoves.thread)
    rw [hmoves.locals]
    generalize c'.shared = w' at hstep ⊢
    -- Where the registry was changed, what the threads know becomes a part of the past.
    rcases good_step hcoherent hl hunspoilt hstep with ⟨hnew⟩ | ⟨hgood⟩
    · refine ⟨hcoherent.changed hnew, forall_mem_set knows_free fun j b _ hb => ?_⟩
      exact (hknows b (List.mem_of_getElem? hb)).changed hnew
    · refine ⟨hgood.coherent, forall_mem_set hgood.knows fun j b _ hb => ?_⟩
      exact (hknows b (List.mem_of_getElem? hb)).congr hgood.registry hgood.past
  -- What an answer says is known of the thread that gave it, for the registry as it is now.
  have hstatus : ∀ st, candidate = none ∨ candidate = some st →
      check.status = freshStatus D F config c.shared.registry path st :=
    (hinvariant.2 _ hanswer).answers rfl
  refine ⟨hstatus, fun hunavailable => ?_, fun hmatched => ?_⟩
  · rcases candidate with _ | st
    · exact freshStatus_eq_unavailable ((hstatus none (.inl rfl)).symm.trans hunavailable)
    · exact freshStatus_eq_unavailable ((hstatus st (.inr rfl)).symm.trans hunavailable)
  · rcases candidate with _ | st
    · obtain ⟨_, _, _, _, _, _, hnone, _⟩ :=
        freshStatus_eq_matched ((hstatus none (.inl rfl)).symm.trans hmatched)
      cases hnone
    · obtain ⟨markers, hcontent, marker, hmem, hpath, st', rfl, hsame⟩ :=
        freshStatus_eq_matched ((hstatus st (.inr rfl)).symm.trans hmatched)
      exact ⟨markers, hcontent, marker, hmem, hpath, st', rfl, hsame⟩

/-- What a thread has answered. -/
def ReaderPoint.answer : ReaderPoint D config →
    Option (Option Text × ℕ × Option (Option RegistryStat) × MarkerCheck)
  | .answered path since candidate check => some (path, since, candidate, check)
  | _ => none

/-- A point with an answer is the end of a check. -/
theorem eq_answered {l : ReaderPoint D config} {since : ℕ}
    (h : l.answer = some (path, since, candidate, check)) : l = .answered path since candidate check := by
  unfold ReaderPoint.answer at h
  split at h
  · cases h
    rfl
  · cases h

/-- A registry without markers. -/
def emptyRegistry (inode : ℤ) : RegistryFile :=
  let bytes := text ("\x7b\"schema_version\": 1, \"updated_utc\": \"2026-09-14T10:31:07Z\", " ++
    "\"markers\": []\x7d")
  ⟨⟨1, inode, bytes.length, 0, 0o100644, 1, 0⟩, true, bytes⟩

/-- The reader of the examples. -/
def mediaReader : ReaderConfig := ⟨maxMarkerRegistryBytes, text "/media", text "/"⟩

/-- Some steps of the first thread. -/
def proceeding (n : ℕ) : List (ℕ × ReaderChoice) :=
  List.replicate n (0, .proceed ⟨(emptyRegistry 0).stat, 64 * 1024, none⟩)

/-- A check during which the registry is replaced, so that it is loaded in a second round. One more check then
    answers behind a single `os.lstat`, of what is cached. -/
def replacedOnce : List (ℕ × ReaderChoice) :=
  [(0, .check (some (text "/media/a.mkv")))] ++ proceeding 7 ++ [(1, .replace (emptyRegistry 2))] ++
    proceeding 9 ++ [(0, .check (some (text "/media/a.mkv")))] ++ proceeding 1

/-- The registry is replaced between two checks of one path: each has the answer of its own registry. -/
theorem marker_cache_coherent_replaced :
    ∃ c : Config (RegistryWorld asciiDecimals) (ReaderPoint asciiDecimals mediaReader),
    c.shared.registry = some (emptyRegistry 2) ∧
    c.shared.reader.cacheSignature = some (registrySignature c.shared.registry) ∧
    (.answered (some (text "/media/a.mkv")) c.shared.version none
      ⟨.unmarked, .said "no marker for this path", false⟩) ∈ c.locals ∧
    freshStatus asciiDecimals ⟨some, rfl⟩ mediaReader c.shared.registry (some (text "/media/a.mkv")) none =
      .unmarked := by
  have hexec : (execWhen (fun c i => !c.locals[i]?.any (spoils ⟨some, rfl⟩ c.shared))
      (readerStep (D := asciiDecimals) ⟨some, rfl⟩ mediaReader)
      ⟨.new (some (emptyRegistry 1)), List.replicate 2 .free⟩ replacedOnce).any (fun c =>
        (c.locals.any fun l => l.answer = some (some (text "/media/a.mkv"), c.shared.version, none,
          ⟨.unmarked, .said "no marker for this path", false⟩)) &&
        (c.shared.registry = some (emptyRegistry 2) &&
          c.shared.reader.cacheSignature = some (registrySignature c.shared.registry))) = true := by
    decide +kernel
  obtain ⟨c, hc, hboth⟩ := (Option.any_eq_true _ _).1 hexec
  obtain ⟨hanswer, hcached⟩ := Bool.and_eq_true_iff.1 hboth
  obtain ⟨hregistry, hsignature⟩ := Bool.and_eq_true_iff.1 hcached
  obtain ⟨l, hl, heq⟩ := List.any_eq_true.1 hanswer
  obtain rfl := eq_answered (of_decide_eq_true heq)
  exact ⟨c, of_decide_eq_true hregistry, of_decide_eq_true hsignature, hl,
    ((marker_cache_coherent (runsWhen_of_execWhen _ hc) hl).1 none (.inl rfl)).symm⟩

/-- A registry that is replaced in the first round and in the second one can be loaded, but it is
    unavailable until it is replaced again. -/
theorem not_coherent_replaced_twice :
    ¬ ∀ (D : Decimals) (F : FloatReader) (config : ReaderConfig) (n : ℕ) (registry : Option RegistryFile)
      (c : Config (RegistryWorld D) (ReaderPoint D config)),
      Runs (ofStep (readerStep F config)) ⟨.new registry, List.replicate n .free⟩ c →
      ∀ path candidate check, .answered path c.shared.version candidate check ∈ c.locals →
        ∀ st, candidate = none ∨ candidate = some st →
          check.status = freshStatus D F config c.shared.registry path st := by
  intro h
  have hexec : (exec (readerStep (D := asciiDecimals) ⟨some, rfl⟩ mediaReader)
      ⟨.new (some (emptyRegistry 1)), List.replicate 2 .free⟩
      ([(0, .check (some (text "/media/a.mkv")))] ++ proceeding 7 ++ [(1, .replace (emptyRegistry 2))] ++
        proceeding 7 ++ [(1, .replace (emptyRegistry 3))] ++ proceeding 2 ++
        [(0, .check (some (text "/media/a.mkv")))] ++ proceeding 1)).any (fun c =>
      (c.locals.any fun l => l.answer = some (some (text "/media/a.mkv"), c.shared.version, none,
        ⟨.unavailable, .raised (.registry "marker registry changed while reloading"), false⟩)) &&
      freshStatus asciiDecimals ⟨some, rfl⟩ mediaReader c.shared.registry (some (text "/media/a.mkv")) none =
        .unmarked) = true := by
    decide +kernel
  obtain ⟨c, hc, hboth⟩ := (Option.any_eq_true _ _).1 hexec
  obtain ⟨hanswer, hfresh⟩ := Bool.and_eq_true_iff.1 hboth
  obtain ⟨l, hl, heq⟩ := List.any_eq_true.1 hanswer
  obtain rfl := eq_answered (of_decide_eq_true heq)
  have hstatus := h _ _ _ 2 _ c (runs_of_exec _ hc fun a _ _ _ _ h => ⟨a, h⟩) _ _ _ hl none (.inl rfl)
  exact absurd (hstatus.trans (of_decide_eq_true hfresh)) nofun

end Failures

end Subgen

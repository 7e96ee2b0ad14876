import Subgen.Failures.Markers

/-!
# The marker registry as a map

`persist_failure_marker` reads the registry, replaces the marker of one path and writes the registry
back. What is in the registry is then a map from paths to markers, and the functions of this module
say which one after any calls.

The map is stated over the history of what was persisted (`lastMarker`), without a document: the marker of a
path is what was persisted for it last, created at the first one of the same generation without another one
in between. `Shows` connects the two: the registry is not there while nothing was persisted, and else it
loads as a document whose markers are those of the map.

* `persistFailureMarker_cases`: a call persists one marker, or leaves the registry as it is;
* `Shows.step`: each call keeps what the registry shows;
* `markers_durable`: this after any calls, with what is encoded and loaded in general;
* `nullCreated_changed`: an entry that is checked before it is written may be written otherwise.
-/

namespace Subgen

namespace Failures

/-! ## The map -/

/-- A marker that was persisted, and when. -/
structure Persisted where
  path : Text
  identity : List ℤ
  kind : Text
  count : ℤ
  now : Text
  deriving DecidableEq

/-- The marker of a path after some were persisted. -/
def lastMarker (history : List Persisted) (path : Text) : Option MarkerFields :=
  let own := (history.filter (·.path = path)).reverse
  own.head?.map fun last =>
    { containerPath := path
      fileIdentity := last.identity
      failureKind := last.kind
      failureCount := last.count
      createdUtc := ((own.takeWhile (·.identity = last.identity)).getLast?.map (·.now)).getD last.now
      updatedUtc := last.now }

example : lastMarker [⟨[7], [1], [3], 1, [10]⟩, ⟨[7], [1], [3], 2, [11]⟩, ⟨[8], [1], [3], 1, [12]⟩,
    ⟨[7], [2], [3], 3, [13]⟩, ⟨[7], [2], [4], 4, [14]⟩] [7] = some ⟨[7], [2], [4], 4, [13], [14]⟩ := by decide

/-- When a marker counts as created, if `previous` is the one before it. -/
def Persisted.created (x : Persisted) (previous : Option MarkerFields) : Text :=
  match previous with
  | some e => if e.fileIdentity = x.identity then e.createdUtc else x.now
  | none => x.now

/-- The fields of the entry for a persisted failure. -/
def Persisted.fields (x : Persisted) (created : Text) : MarkerFields :=
  ⟨x.path, x.identity, x.kind, x.count, created, x.now⟩

section Map

variable {history : List Persisted} {x : Persisted} {path : Text}

theorem containerPath_lastMarker {e : MarkerFields} (h : lastMarker history path = some e) :
    e.containerPath = path := by
  obtain ⟨last, -, rfl⟩ := Option.map_eq_some_iff.1 h
  rfl

/-- The markers of the other paths stay. -/
theorem lastMarker_concat_of_ne (h : x.path ≠ path) : lastMarker (history ++ [x]) path = lastMarker history path := by
  simp [lastMarker, List.filter_append, h]

/-- The marker of a path after another one of it. -/
theorem lastMarker_concat_self :
    lastMarker (history ++ [x]) x.path = some (x.fields (x.created (lastMarker history x.path))) := by
  have hown : ((history ++ [x]).filter (·.path = x.path)).reverse =
      x :: (history.filter (·.path = x.path)).reverse := by
    simp [List.filter_append]
  rw [lastMarker, hown]
  simp only [List.head?_cons, Option.map_some, Persisted.fields, Option.some.injEq, MarkerFields.mk.injEq,
    true_and, and_true]
  rw [lastMarker, List.takeWhile_cons_of_pos (by simp)]
  cases (history.filter (·.path = x.path)).reverse with
  | nil => rfl
  | cons last own =>
    simp only [List.head?_cons, Option.map_some, Persisted.created]
    by_cases hsame : last.identity = x.identity
    · -- The first of the streak is the one that the marker before it goes back to.
      have hwhile : ∀ i, last.identity = i → ((last :: own).takeWhile (·.identity = i)) =
          last :: own.takeWhile (·.identity = i) := fun i hi => List.takeWhile_cons_of_pos (by simp [hi])
      rw [if_pos hsame, hwhile _ hsame, hwhile _ rfl, hsame, List.getLast?_cons_cons]
      obtain ⟨first, hfirst⟩ := Option.isSome_iff_exists.1
        (List.getLast?_isSome.2 (List.cons_ne_nil last (own.takeWhile (·.identity = x.identity))))
      rw [hfirst]
      rfl
    · rw [if_neg hsame, List.takeWhile_cons_of_neg (by simpa using hsame)]
      rfl

end Map

/-! ## The registry -/

/-- What the monitor is configured with. -/
structure MarkerPolicy where
  autoMark : Bool
  autoMarkMinFailures : ℤ
  autoDelete : Bool
  autoDeleteMinFailures : ℤ

/-- What a call reads of its target, the time, and whether something fails before `os.replace`. -/
structure PersistCall where
  containerPath : Json
  failureIdentity : Json
  count : ℤ
  failureKind : Text
  now : Text
  interrupted : Bool

/-- What a call that writes nothing ends with. -/
inductive MarkerStatus
  | disabled
  | waiting
  | writeFailed
  | created
  | refreshed
  deriving DecidableEq

/-- The call returns `True`. -/
def MarkerStatus.isPersisted : MarkerStatus → Bool
  | created | refreshed => true
  | _ => false

/-- A registry, if it is there, and what becomes of the target; `delete_status` may stay as it is. -/
structure PersistResult where
  registry : Option (List ℕ)
  markerStatus : MarkerStatus
  deleteStatus : Option Text

/-- The value is this path. -/
def isPath (v : Json) (path : Text) : Bool :=
  match v with
  | .str s => s = path
  | _ => false

section Persist

variable (D : Decimals) (F : FloatReader)

/-- The markers of a registry, none if there is none. -/
def registeredMarkers (registry : Option (List ℕ)) : Except MarkerError (List (MarkerEntry D)) :=
  match registry with
  | none => .ok []
  | some bytes => do
    let document ← loadMarkerDocument D F (some bytes)
    return document.markers

/-- What is written for a call, and whether the generation had a marker. -/
def markerUpdate (registry : Option (List ℕ)) (call : PersistCall) : Except MarkerError (Text × Bool) := do
  let identity ← markerIdentity call.failureIdentity
  let markers ← registeredMarkers D F registry
  let existing := markers.find? fun e => isPath call.containerPath e.containerPath
  let sameGeneration := existing.any fun e => e.fileIdentity = identity.1
  let created := match existing with
    | some e => if e.fileIdentity = identity.1 then e.createdUtc else call.now
    | none => call.now
  let marker ← buildMarkerEntry D call.containerPath (.array (identity.1.map .int)) (.str call.failureKind)
    (.int call.count) (.str call.now) (.str created)
  let entries := markers.filter (fun e => !isPath call.containerPath e.containerPath) ++ [marker]
  let encoded ← encodeMarkerDocument D (entries.map fun e => e.json) call.now
  return (encoded, sameGeneration)

/-- There are enough failures for a deletion. -/
def MarkerPolicy.deletes (policy : MarkerPolicy) (call : PersistCall) : Bool :=
  policy.autoDelete && policy.autoDeleteMinFailures ≤ call.count

/-- `delete_status` where a marker is awaited, and where it could not be written. -/
def PersistCall.awaiting (call : PersistCall) (policy : MarkerPolicy) : Option Text :=
  if policy.deletes call then some (text "marker_blocked") else none

/-- Why a call that would delete the file does not do so. -/
def PersistCall.blocked (call : PersistCall) (policy : MarkerPolicy) : Option Text :=
  if policy.deletes call then
    some (match call.failureIdentity with
      | .null => text "blocked"
      | _ => text "marker_blocked")
  else none

/-- `persist_failure_marker`. -/
def persistFailureMarker (policy : MarkerPolicy) (registry : Option (List ℕ)) (call : PersistCall) :
    PersistResult :=
  if !policy.autoMark then ⟨registry, .disabled, none⟩
  else if call.count < policy.autoMarkMinFailures then ⟨registry, .waiting, call.awaiting policy⟩
  else
    match markerUpdate D F registry call, call.interrupted with
    | .ok (encoded, sameGeneration), false =>
      ⟨some (encoded.flatMap utf8Char), if sameGeneration then .refreshed else .created, none⟩
    | _, _ => ⟨registry, .writeFailed, call.blocked policy⟩

/-- What a call persists. -/
def PersistCall.persisted (call : PersistCall) : Option Persisted :=
  match call.containerPath, normalizedEventIdentity call.failureIdentity with
  | .str path, some identity => some ⟨path, identity, call.failureKind, call.count, call.now⟩
  | _, _ => none

/-- A registry after some calls, with what was persisted. -/
structure RegistryRun where
  registry : Option (List ℕ)
  history : List Persisted

/-- One call, with what it leaves behind. -/
def RegistryRun.step (policy : MarkerPolicy) (s : RegistryRun) (call : PersistCall) : RegistryRun :=
  let result := persistFailureMarker D F policy s.registry call
  ⟨result.registry, if result.markerStatus.isPersisted then s.history ++ call.persisted.toList else s.history⟩

/-- The calls, from where there is no registry. -/
def persistAll (policy : MarkerPolicy) (calls : List PersistCall) : RegistryRun :=
  calls.foldl (RegistryRun.step D F policy) ⟨none, []⟩

variable {D F} {policy : MarkerPolicy} {registry : Option (List ℕ)} {call : PersistCall}

/-- A registry shows a history: the last marker of each path, and no registry before the first one. -/
def Shows (D : Decimals) (F : FloatReader) (registry : Option (List ℕ)) (history : List Persisted) : Prop :=
  (registry = none ↔ history = []) ∧ ∃ markers, registeredMarkers D F registry = .ok markers ∧
    (markers.map fun e => e.containerPath).Nodup ∧
    ∀ e : MarkerFields, (∃ m ∈ markers, m.toMarkerFields = e) ↔ lastMarker history e.containerPath = some e

/-- A call writes the registry, or it leaves it as it is and does not persist its marker. -/
theorem persistFailureMarker_cases (D : Decimals) (F : FloatReader) (policy : MarkerPolicy)
    (registry : Option (List ℕ)) (call : PersistCall) :
    (∃ encoded sameGeneration, markerUpdate D F registry call = .ok (encoded, sameGeneration) ∧
      (persistFailureMarker D F policy registry call).registry = some (encoded.flatMap utf8Char) ∧
        (persistFailureMarker D F policy registry call).markerStatus.isPersisted = true) ∨
    ((persistFailureMarker D F policy registry call).registry = registry ∧
      (persistFailureMarker D F policy registry call).markerStatus.isPersisted = false) := by
  rw [persistFailureMarker]
  split_ifs with hmark hcount
  · exact .inr ⟨rfl, rfl⟩
  · exact .inr ⟨rfl, rfl⟩
  · split
    · next encoded sameGeneration hupdate _ =>
      refine .inl ⟨encoded, sameGeneration, hupdate, rfl, ?_⟩
      cases sameGeneration <;> rfl
    · exact .inr ⟨rfl, rfl⟩

/-- What is built from the fields of a call. -/
theorem buildMarkerEntry_eq_ok {path : Json} {identity : List ℤ} {kind now created : Text} {count : ℤ}
    {marker : MarkerEntry D} (hidentity : identity.length = 5 ∧ ∀ n ∈ identity, 0 ≤ n)
    (h : buildMarkerEntry D path (.array (identity.map .int)) (.str kind) (.int count) (.str now) (.str created) =
      .ok marker) :
    ∃ p, path = .str p ∧
      marker.toMarkerFields = ⟨p, identity, kind, count, if created = [] then now else created, now⟩ := by
  -- A list of five numbers that are not negative is an identity as it stands.
  have hnormalized : markerIdentity (.array (identity.map .int)) = .ok ⟨identity, hidentity⟩ := by
    rw [markerIdentity]
    split
    · next i hi =>
      obtain rfl := Option.some.inj (hi.symm.trans (normalizedEventIdentity_int hidentity))
      rfl
    · next hnone => simp [normalizedEventIdentity_int hidentity] at hnone
  simp only [buildMarkerEntry, Procedure.bind_eq_ok] at h
  obtain ⟨p, hp, i, hi, k, hk, n, hn, updated, hupdated, c, hc, h⟩ := h
  obtain rfl := Except.ok.inj (hi.symm.trans hnormalized)
  obtain ⟨q, rfl, hpath⟩ : ∃ q, path = .str q ∧ p.1 = q := by
    rw [canonicalContainerPath.eq_def] at hp
    split at hp
    · split_ifs at hp with hcanonical
      exact ⟨_, rfl, by rw [← Except.ok.inj hp]⟩
    · cases hp
  -- What is validated keeps its value, so that the entry shows the fields of the call.
  have hstr : ∀ {name s} {t : {t : Text // isUtcStamp D t = true}},
      validatedTimestamp D name (.str s) = .ok t → t.1 = s := by
    intro name s t ht
    rw [validatedTimestamp] at ht
    split_ifs at ht
    rw [← Except.ok.inj ht]
  have hkind : k.1 = kind := by
    rw [supportedKind] at hk
    split_ifs at hk
    rw [← Except.ok.inj hk]
  have hcount : n.1 = count := by
    rw [positiveCount] at hn
    split_ifs at hn
    rw [← Except.ok.inj hn]
  have hcreated : c.1 = if created = [] then now else created := by
    cases created with
    | nil => exact hstr hc
    | cons d t => exact hstr hc
  refine ⟨q, rfl, ?_⟩
  rw [← Except.ok.inj h]
  simp only [hpath, hkind, hcount, hcreated, hstr hupdated]

/-- The entries of what was built are what they are checked to be. -/
theorem eq_of_validatedEntry_json {entries checked : List (MarkerEntry D)}
    (h : List.Forall₂ (fun marker entry => validatedEntry D marker = .ok entry)
      (entries.map fun e => e.json) checked) : checked = entries := by
  rw [List.forall₂_map_left_iff] at h
  refine (List.forall₂_eq_eq_eq ▸ h.imp fun e e' he => ?_ : entries = checked).symm
  exact Except.ok.inj ((validatedEntry_json e).symm.trans he)

/-- One marker changes. -/
theorem Shows.update {history : List Persisted} {encoded : Text} {sameGeneration : Bool}
    (hshows : Shows D F registry history)
    (hupdate : markerUpdate D F registry call = .ok (encoded, sameGeneration)) :
    ∃ x, call.persisted = some x ∧ Shows D F (some (encoded.flatMap utf8Char)) (history ++ [x]) := by
  obtain ⟨-, markers, hmarkers, hnodup, hlast⟩ := hshows
  simp only [markerUpdate, Procedure.bind_eq_ok] at hupdate
  obtain ⟨identity, hidentity, markers', hmarkers', marker, hmarker, encoded', hencoded, hresult⟩ := hupdate
  obtain rfl := Except.ok.inj (hmarkers'.symm.trans hmarkers)
  obtain ⟨rfl, -⟩ := Prod.mk.inj (Except.ok.inj hresult)
  obtain ⟨path, hpath, hfields⟩ := buildMarkerEntry_eq_ok identity.2 hmarker
  have hnormalized : normalizedEventIdentity call.failureIdentity = some identity.1 := by
    rw [markerIdentity] at hidentity
    split at hidentity
    · next i hi => rw [hi, ← Except.ok.inj hidentity]
    · cases hidentity
  have hisPath : ∀ p, isPath call.containerPath p = decide (path = p) := fun p => by rw [hpath]; rfl
  let x : Persisted := ⟨path, identity.1, call.failureKind, call.count, call.now⟩
  -- The marker that is found is the last one of the path, so that its creation is taken over.
  have hfind : (markers'.find? fun e => isPath call.containerPath e.containerPath).map (·.toMarkerFields) =
      lastMarker history path := by
    cases hfound : markers'.find? fun e => isPath call.containerPath e.containerPath with
    | none =>
      rw [Option.map_none, eq_comm, Option.eq_none_iff_forall_not_mem]
      intro e he
      have hpathOf := containerPath_lastMarker he
      obtain ⟨m, hm, rfl⟩ := (hlast e).2 (hpathOf ▸ he)
      exact List.find?_eq_none.1 hfound m hm (by simp [hisPath, hpathOf])
    | some m =>
      have hm := List.mem_of_find?_eq_some hfound
      have hpathOf : path = m.containerPath := by simpa [hisPath] using List.find?_some hfound
      rw [Option.map_some, hpathOf]
      exact ((hlast m.toMarkerFields).1 ⟨m, hm, rfl⟩).symm
  have hmarkerFields : marker.toMarkerFields = x.fields (x.created (lastMarker history path)) := by
    rw [hfields, ← hfind]
    cases markers'.find? fun e => isPath call.containerPath e.containerPath with
    | none =>
      simp only [ite_self]
      rfl
    | some m =>
      have hcreated : m.createdUtc ≠ [] := fun hnil => absurd m.created (by simp [hnil, isUtcStamp])
      have hidentityOf : x.identity = identity.1 := rfl
      simp only [Option.map_some, Persisted.created, Persisted.fields, hidentityOf]
      by_cases hsame : m.fileIdentity = identity.1
      · simp only [if_pos hsame, if_neg hcreated]
        rfl
      · simp only [if_neg hsame, ite_self]
        rfl
  have hmarkerPath : marker.containerPath = path := by rw [hmarkerFields]; rfl
  have hmem : ∀ m, m ∈ markers'.filter (fun e => !isPath call.containerPath e.containerPath) ++ [marker] ↔
      m ∈ markers' ∧ path ≠ m.containerPath ∨ m = marker := by
    intro m
    simp [hisPath]
  obtain ⟨d, hd, hload⟩ := loadMarkerDocument_encode (F := F) hencoded
  obtain ⟨-, -, checked, hall, hnodup', hsort⟩ := validatedDocument_eq_ok.1 hd
  obtain rfl := eq_of_validatedEntry_json hall
  have hperm : d.markers.Perm (markers'.filter (fun e => !isPath call.containerPath e.containerPath) ++ [marker]) := by
    rw [hsort]
    exact List.perm_insertionSort _ _
  refine ⟨x, by rw [PersistCall.persisted, hpath, hnormalized], by simp, d.markers, ?_, ?_, fun e => ?_⟩
  · rw [registeredMarkers, hload]
    rfl
  · exact (hperm.map _).nodup_iff.2 hnodup'
  · simp only [hperm.mem_iff, hmem]
    by_cases hsame : x.path = e.containerPath
    · rw [← hsame, lastMarker_concat_self, ← hmarkerFields, Option.some.injEq]
      constructor
      · rintro ⟨m, ⟨-, hne⟩ | rfl, rfl⟩
        · exact absurd hsame hne
        · rfl
      · rintro rfl
        exact ⟨marker, .inr rfl, rfl⟩
    · rw [lastMarker_concat_of_ne hsame, ← hlast]
      constructor
      · rintro ⟨m, ⟨hm, -⟩ | rfl, rfl⟩
        · exact ⟨m, hm, rfl⟩
        · exact absurd hmarkerPath.symm hsame
      · rintro ⟨m, hm, rfl⟩
        exact ⟨m, .inl ⟨hm, hsame⟩, rfl⟩

theorem Shows.step {s : RegistryRun} (hshows : Shows D F s.registry s.history) (call : PersistCall) :
    Shows D F (s.step D F policy call).registry (s.step D F policy call).history := by
  rw [RegistryRun.step]
  rcases persistFailureMarker_cases D F policy s.registry call with
    ⟨encoded, sameGeneration, hupdate, hregistry, hpersisted⟩ | ⟨hregistry, hpersisted⟩
  · obtain ⟨x, hx, hnext⟩ := hshows.update hupdate
    simp only [hregistry, hpersisted, hx, if_true]
    exact hnext
  · simp only [hregistry, hpersisted, Bool.false_eq_true, if_false]
    exact hshows

/-- After any calls the registry shows what was persisted. -/
theorem shows_persistAll (policy : MarkerPolicy) (calls : List PersistCall) :
    Shows D F (persistAll D F policy calls).registry (persistAll D F policy calls).history := by
  have hrun : ∀ s : RegistryRun, Shows D F s.registry s.history →
      Shows D F (calls.foldl (RegistryRun.step D F policy) s).registry
        (calls.foldl (RegistryRun.step D F policy) s).history := by
    induction calls with
    | nil => exact fun s hs => hs
    | cons call calls ih => exact fun s hs => ih _ (hs.step call)
  exact hrun ⟨none, []⟩ ⟨by simp, [], rfl, List.nodup_nil, fun e => by simp [lastMarker]⟩

/-- What is loaded from a registry that shows a history. -/
theorem Shows.load {history : List Persisted} (hshows : Shows D F registry history) (hne : history ≠ []) :
    ∃ d, loadMarkerDocument D F registry = .ok d ∧
      ∀ e : MarkerFields, (∃ m ∈ d.markers, m.toMarkerFields = e) ↔ lastMarker history e.containerPath = some e := by
  obtain ⟨hnone, markers, hmarkers, -, hlast⟩ := hshows
  cases registry with
  | none => exact absurd (hnone.1 rfl) hne
  | some bytes =>
    obtain ⟨d, hload, hd⟩ := Procedure.bind_eq_ok.1 hmarkers
    obtain rfl := Except.ok.inj hd
    exact ⟨d, hload, hlast⟩

end Persist

/-- The registry is a durable map: what is loaded after any calls are the last markers that were
    persisted, sorted by their paths; a call that fails leaves the registry as it is; and what is encoded is
    loaded again, as it was checked, whatever the order of the entries. -/
theorem markers_durable (D : Decimals) (F : FloatReader) (policy : MarkerPolicy) :
    (∀ calls : List PersistCall,
      ((persistAll D F policy calls).history = [] → (persistAll D F policy calls).registry = none) ∧
      ((persistAll D F policy calls).history ≠ [] → ∃ d,
        loadMarkerDocument D F (persistAll D F policy calls).registry = .ok d ∧
        (d.markers.Pairwise fun e e' => e.containerPath < e'.containerPath) ∧
        ∀ e : MarkerFields, (∃ m ∈ d.markers, m.toMarkerFields = e) ↔
          lastMarker (persistAll D F policy calls).history e.containerPath = some e)) ∧
    (∀ registry call, (persistFailureMarker D F policy registry call).markerStatus.isPersisted = false →
      (persistFailureMarker D F policy registry call).registry = registry) ∧
    ∀ entries t encoded, encodeMarkerDocument D entries t = .ok encoded →
      (∃ d, loadMarkerDocument D F (some (encoded.flatMap utf8Char)) = .ok d ∧ d.updatedUtc = t ∧
        (∃ checked, List.Forall₂ (fun entry e => validatedEntry D entry = .ok e) entries checked ∧
          d.markers.Perm checked) ∧
        ∀ built : List (MarkerEntry D), entries = built.map (fun e => e.json) → d.markers.Perm built) ∧
      ∀ entries', entries'.Perm entries → encodeMarkerDocument D entries' t = .ok encoded := by
  refine ⟨fun calls => ⟨fun hempty => (shows_persistAll policy calls).1.2 hempty, fun hne => ?_⟩, ?_, ?_⟩
  · obtain ⟨d, hload, hlast⟩ := (shows_persistAll policy calls).load hne
    exact ⟨d, hload, d.sorted, hlast⟩
  · intro registry call hfailed
    rcases persistFailureMarker_cases D F policy registry call with ⟨-, -, -, -, hpersisted⟩ | ⟨hregistry, -⟩
    · simp [hpersisted] at hfailed
    · exact hregistry
  · intro entries t encoded hencoded
    refine ⟨?_, fun entries' hperm => encodeMarkerDocument_perm hperm hencoded⟩
    obtain ⟨d, hd, hload⟩ := loadMarkerDocument_encode (F := F) hencoded
    obtain ⟨ht, -, checked, hall, -, hsort⟩ := validatedDocument_eq_ok.1 hd
    -- The document is the entries as they were checked, in the order of their paths.
    have hperm : d.markers.Perm checked := by
      rw [hsort]
      exact List.perm_insertionSort _ _
    refine ⟨d, hload, ht, ⟨checked, hall, hperm⟩, ?_⟩
    rintro built rfl
    exact eq_of_validatedEntry_json hall ▸ hperm

/-- A marker without a creation time. -/
def nullCreated : Json :=
  .object [(text "container_path", .str (text "/media/a.mkv")),
    (text "file_identity", .array [.int 1, .int 2, .int 3, .int 4, .int 5]),
    (text "failure_kind", .str (text "sigsegv")), (text "failure_count", .int 1), (text "created_utc", .null),
    (text "updated_utc", .str (text "2026-09-14T10:31:07Z"))]

/-- It is accepted, and loaded with one. -/
theorem nullCreated_changed : ∃ encoded d,
    encodeMarkerDocument asciiDecimals [nullCreated] (text "2026-09-14T10:31:07Z") = .ok encoded ∧
    loadMarkerDocument asciiDecimals ⟨some, rfl⟩ (some (encoded.flatMap utf8Char)) = .ok d ∧
    ¬ (d.markers.map fun e => e.json).Perm [nullCreated] := by
  have haccepted : (encodeMarkerDocument asciiDecimals [nullCreated]
      (text "2026-09-14T10:31:07Z")).toOption.isSome = true := by decide +kernel
  cases hencoded : encodeMarkerDocument asciiDecimals [nullCreated] (text "2026-09-14T10:31:07Z") with
  | error e => simp [hencoded, Except.toOption] at haccepted
  | ok encoded =>
    obtain ⟨d, -, hload⟩ := loadMarkerDocument_encode (F := ⟨some, rfl⟩) hencoded
    refine ⟨encoded, d, rfl, hload, fun hperm => ?_⟩
    obtain ⟨e, -, he⟩ := List.mem_map.1 (hperm.mem_iff.2 (List.mem_singleton_self nullCreated))
    simp [MarkerFields.json, nullCreated] at he

end Failures

end Subgen

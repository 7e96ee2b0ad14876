import Subgen.Failures.Events
import Subgen.Lib.JsonTexts

/-!
# Failure markers

The registry of the markers that the failure monitor shares with Subgen: a document of JSON, which is
checked when it is written and when it is read.

The checks are made field by field, with a message for each; an entry that passes them is a `MarkerEntry`,
whose fields carry what was checked, and a document of such entries with distinct paths is a `MarkerDocument`.
The writer sorts the entries by their paths. A date is any text
of the right shape, and what counts as decimal digits is that of Unicode (`Decimals`).

* `MarkerEntry`, `MarkerDocument`: what passes the checks;
* `loadMarkerDocument_encode`: what was encoded is loaded again, with the entries in the order of their
  paths;
* `encodeMarkerDocument_perm`: the order in which they are supplied does not matter.
-/

namespace Subgen

namespace Failures

/-- `MAX_MARKER_REGISTRY_BYTES`. -/
def maxMarkerRegistryBytes : ℕ := 8 * 1024 * 1024

/-- `MAX_MARKER_ENTRIES`. -/
def maxMarkerEntries : ℕ := 10000

/-- `SUPPORTED_FAILURE_KINDS`. -/
def supportedFailureKinds : List Text := [text "processing_error", text "sigsegv"]

/-- What is raised, a `MarkerRegistryError` with its message. -/
inductive MarkerError
  | registry (message : String)
  | fileNotFound
  | unicodeEncode
  | type
  deriving DecidableEq

/-- `canonical_container_path` returns. -/
def IsContainerPath (path : Text) : Prop :=
  path ≠ [] ∧ 0 ∉ path ∧ PosixPath.root path = [47] ∧ 2 ≤ (PosixPath.parts path).length ∧
    (PosixPath.parts path).head? = some (text "media") ∧ PosixPath.dotdot ∉ PosixPath.parts path ∧
    PosixPath.Canonical path

instance (path : Text) : Decidable (IsContainerPath path) :=
  inferInstanceAs (Decidable (_ ∧ _ ∧ _ ∧ _ ∧ _ ∧ _ ∧ _))

/-- `\d{4}-\d{2}-\d{2}T\d{2}:\d{2}:\d{2}Z`. -/
def isUtcStamp (D : Decimals) (t : Text) : Bool :=
  t.length = 20 && (List.zipWith (fun c p => if p = 48 then D.isDecimal c else c = p) t
    (text "0000-00-00T00:00:00Z")).all id

/-! ## Entries -/

/-- The fields of a marker. -/
structure MarkerFields where
  containerPath : Text
  fileIdentity : List ℤ
  failureKind : Text
  failureCount : ℤ
  createdUtc : Text
  updatedUtc : Text
  deriving DecidableEq

/-- The fields of a marker, checked. -/
structure MarkerEntry (D : Decimals) extends MarkerFields where
  canonical : IsContainerPath containerPath
  identity : fileIdentity.length = 5 ∧ ∀ n ∈ fileIdentity, 0 ≤ n
  supported : failureKind ∈ supportedFailureKinds
  positive : 1 ≤ failureCount
  created : isUtcStamp D createdUtc = true
  updated : isUtcStamp D updatedUtc = true

/-- The dictionary of an entry. -/
def MarkerFields.json (e : MarkerFields) : Json :=
  .object [(text "container_path", .str e.containerPath),
    (text "file_identity", .array (e.fileIdentity.map .int)), (text "failure_kind", .str e.failureKind),
    (text "failure_count", .int e.failureCount), (text "created_utc", .str e.createdUtc),
    (text "updated_utc", .str e.updatedUtc)]

/-- Whether `value or default` is `default`. -/
def isFalsy : Json → Bool
  | .null | .bool false | .int 0 | .str [] | .array [] | .object [] => true
  | .float (some repr) => repr = text "0.0" || repr = text "-0.0"
  | _ => false

section Entry

variable (D : Decimals)

/-- `canonical_container_path`. -/
def canonicalContainerPath : Json → Except MarkerError {path : Text // IsContainerPath path}
  | .str path => if h : IsContainerPath path then .ok ⟨path, h⟩ else .error (.registry
      (if path = [] ∨ 0 ∈ path then "Marker container path must be non-empty text"
      else if PosixPath.root path ≠ [47] ∨ (PosixPath.parts path).length < 2 ∨
          (PosixPath.parts path).head? ≠ some (text "media") then
        "Marker container path must be strictly beneath /media"
      else "Marker container path must be canonical"))
  | _ => .error (.registry "Marker container path must be non-empty text")

/-- `_validated_timestamp`. -/
def validatedTimestamp (fieldName : String) (v : Json) : Except MarkerError {t : Text // isUtcStamp D t = true} :=
  match v with
  | .str t => if h : isUtcStamp D t = true then .ok ⟨t, h⟩
    else .error (.registry ("Marker " ++ fieldName ++ " must be a UTC timestamp"))
  | _ => .error (.registry ("Marker " ++ fieldName ++ " must be a UTC timestamp"))

/-- `normalize_file_identity`. -/
def markerIdentity (v : Json) : Except MarkerError {i : List ℤ // i.length = 5 ∧ ∀ n ∈ i, 0 ≤ n} :=
  match h : normalizedEventIdentity v with
  | some i => .ok ⟨i, normalizedEventIdentity_valid h⟩
  | none => .error (.registry "Marker file identity must contain five non-negative integers")

/-- `failure_kind not in SUPPORTED_FAILURE_KINDS`, where a list or a dictionary has no hash. -/
def supportedKind : Json → Except MarkerError {kind : Text // kind ∈ supportedFailureKinds}
  | .str kind => if h : kind ∈ supportedFailureKinds then .ok ⟨kind, h⟩
    else .error (.registry "Marker failure kind is unsupported")
  | .array _ | .object _ => .error .type
  | _ => .error (.registry "Marker failure kind is unsupported")

/-- The check of a failure count. -/
def positiveCount : Json → Except MarkerError {n : ℤ // 1 ≤ n}
  | .int n => if h : 1 ≤ n then .ok ⟨n, h⟩
    else .error (.registry "Marker failure count must be a positive integer")
  | _ => .error (.registry "Marker failure count must be a positive integer")

/-- `build_marker_entry`. -/
def buildMarkerEntry (containerPath identity failureKind failureCount timestamp createdUtc : Json) :
    Except MarkerError (MarkerEntry D) := do
  let path ← canonicalContainerPath containerPath
  let normalizedIdentity ← markerIdentity identity
  let kind ← supportedKind failureKind
  let count ← positiveCount failureCount
  let updated ← validatedTimestamp D "updated_utc" timestamp
  let created ← validatedTimestamp D "created_utc" (if isFalsy createdUtc then timestamp else createdUtc)
  return ⟨⟨path.1, normalizedIdentity.1, kind.1, count.1, created.1, updated.1⟩, path.2, normalizedIdentity.2,
    kind.2, count.2, created.2, updated.2⟩

/-- The keys of an entry. -/
def entryKeys : List Text :=
  [text "container_path", text "file_identity", text "failure_kind", text "failure_count",
   text "created_utc", text "updated_utc"]

/-- `_validated_entry`. -/
def validatedEntry : Json → Except MarkerError (MarkerEntry D)
  | .object items =>
    if (items.map Prod.fst).isPerm entryKeys then
      buildMarkerEntry D (Json.get items (text "container_path")) (Json.get items (text "file_identity"))
        (Json.get items (text "failure_kind")) (Json.get items (text "failure_count"))
        (Json.get items (text "updated_utc")) (Json.get items (text "created_utc"))
    else .error (.registry "Marker entry fields do not match schema version 1")
  | _ => .error (.registry "Marker entry fields do not match schema version 1")

end Entry

instance (t : Text) : Decidable (Encodable t) :=
  inferInstanceAs (Decidable (∀ c ∈ t, c < 0x110000 ∧ isSurrogate c = false))

/-! ## Documents -/

/-- A document that passes the checks, with its markers in the order of their paths. -/
structure MarkerDocument (D : Decimals) where
  updatedUtc : Text
  markers : List (MarkerEntry D)
  stamp : isUtcStamp D updatedUtc = true
  bounded : markers.length ≤ maxMarkerEntries
  sorted : markers.Pairwise fun e e' => e.containerPath < e'.containerPath

section Document

variable (D : Decimals)

/-- The document of some markers. -/
def markerDocumentJson (updatedUtc : Text) (markers : List Json) : Json :=
  .object [(text "schema_version", .int 1), (text "updated_utc", .str updatedUtc),
    (text "markers", .array markers)]

/-- The document as it is written to the registry. -/
def MarkerDocument.json {D : Decimals} (d : MarkerDocument D) : Json :=
  markerDocumentJson d.updatedUtc (d.markers.map fun e => e.json)

/-- The entries of a list, whose paths are distinct and none of `seen`. -/
def validatedMarkers (seen : List Text) : List Json → Except MarkerError (List (MarkerEntry D))
  | [] => .ok []
  | marker :: markers => do
    let entry ← validatedEntry D marker
    if entry.containerPath ∈ seen then
      throw (.registry "Marker document contains duplicate container paths")
    else
      let rest ← validatedMarkers (entry.containerPath :: seen) markers
      return entry :: rest

/-- `sort(key=container_path)`. -/
def sortMarkers {D : Decimals} (entries : List (MarkerEntry D)) : List (MarkerEntry D) :=
  entries.insertionSort fun e e' => e.containerPath ≤ e'.containerPath

variable {D} in
/-- The order of distinct paths is strict. -/
theorem sorted_sortMarkers {entries : List (MarkerEntry D)}
    (h : (entries.map fun e => e.containerPath).Nodup) :
    (sortMarkers entries).Pairwise fun e e' => e.containerPath < e'.containerPath := by
  have hle : (sortMarkers entries).Pairwise fun e e' => e.containerPath ≤ e'.containerPath :=
    List.pairwise_insertionSort _ _
  have hnodup : ((sortMarkers entries).map fun e => e.containerPath).Nodup :=
    ((List.perm_insertionSort _ entries).map _).nodup_iff.2 h
  rw [List.Nodup, List.pairwise_map] at hnodup
  exact hle.imp₂ (fun _ _ hle hne => lt_of_le_of_ne hle hne) hnodup

theorem validatedMarkers_eq_ok {seen : List Text} {markers : List Json} {entries : List (MarkerEntry D)} :
    validatedMarkers D seen markers = .ok entries ↔
      List.Forall₂ (fun marker entry => validatedEntry D marker = .ok entry) markers entries ∧
        (entries.map fun e => e.containerPath).Nodup ∧ ∀ e ∈ entries, e.containerPath ∉ seen := by
  induction markers generalizing seen entries with
  | nil =>
    rw [validatedMarkers, List.forall₂_nil_left_iff]
    constructor
    · rintro h
      obtain rfl := Except.ok.inj h
      exact ⟨rfl, List.nodup_nil, nofun⟩
    · rintro ⟨rfl, -⟩
      rfl
  | cons marker markers ih =>
    rw [validatedMarkers, Procedure.bind_eq_ok, List.forall₂_cons_left_iff]
    constructor
    · rintro ⟨entry, hentry, h⟩
      split_ifs at h with hmem
      obtain ⟨rest, hrest, h⟩ := Procedure.bind_eq_ok.1 h
      obtain rfl := Except.ok.inj h
      obtain ⟨hall, hnodup, hfresh⟩ := ih.1 hrest
      -- The paths of the rest are new against the first one, which is among those seen by then.
      refine ⟨⟨entry, rest, hentry, hall, rfl⟩, ?_, ?_⟩
      · rw [List.map_cons, List.nodup_cons]
        refine ⟨fun hentryMem => ?_, hnodup⟩
        obtain ⟨e, he, hpath⟩ := List.mem_map.1 hentryMem
        exact hfresh e he (by simp [hpath])
      · rw [List.forall_mem_cons]
        exact ⟨hmem, fun e he hin => hfresh e he (List.mem_cons_of_mem _ hin)⟩
    · rintro ⟨⟨entry, rest, hentry, hall, rfl⟩, hnodup, hfresh⟩
      rw [List.map_cons, List.nodup_cons] at hnodup
      rw [List.forall_mem_cons] at hfresh
      have hrest : validatedMarkers D (entry.containerPath :: seen) markers = .ok rest := by
        refine ih.2 ⟨hall, hnodup.2, fun e he hin => ?_⟩
        rcases List.mem_cons.1 hin with heq | hin
        · exact hnodup.1 (heq ▸ List.mem_map_of_mem he)
        · exact hfresh.2 e he hin
      refine ⟨entry, hentry, ?_⟩
      rw [if_neg hfresh.1]
      exact Procedure.bind_eq_ok.2 ⟨rest, hrest, rfl⟩

/-- The keys of the document. -/
def documentKeys : List Text := [text "schema_version", text "updated_utc", text "markers"]

/-- The checked entries of a document, sorted. -/
def documentOf (updated : {t : Text // isUtcStamp D t = true}) (markers : List Json)
    (hbounded : markers.length ≤ maxMarkerEntries) : Except MarkerError (MarkerDocument D) :=
  match h : validatedMarkers D [] markers with
  | .error e => .error e
  | .ok entries => .ok
    { updatedUtc := updated.1
      markers := sortMarkers entries
      stamp := updated.2
      bounded := by
        rw [sortMarkers, List.length_insertionSort, ← ((validatedMarkers_eq_ok D).1 h).1.length_eq]
        exact hbounded
      sorted := sorted_sortMarkers ((validatedMarkers_eq_ok D).1 h).2.1 }

/-- `schema_version` is no boolean and equal to 1, which a float may be as well. -/
def isSchemaVersion : Json → Bool
  | .int n => n = 1
  | .float repr => repr = some (text "1.0")
  | _ => false

/-- `_validated_document`. -/
def validatedDocument : Json → Except MarkerError (MarkerDocument D)
  | .object items =>
    if ¬ (items.map Prod.fst).isPerm documentKeys then
      .error (.registry "Marker document fields do not match schema version 1")
    else if ¬ isSchemaVersion (Json.get items (text "schema_version")) then
      .error (.registry "Marker schema version is unsupported")
    else do
      let updated ← validatedTimestamp D "document updated_utc" (Json.get items (text "updated_utc"))
      match Json.get items (text "markers") with
      | .array markers =>
        if h : markers.length ≤ maxMarkerEntries then documentOf D updated markers h
        else .error (.registry "Marker list is invalid or exceeds the entry limit")
      | _ => .error (.registry "Marker list is invalid or exceeds the entry limit")
  | _ => .error (.registry "Marker document fields do not match schema version 1")

/-- How the registry is written. -/
def markerLayout : Json.Layout := ⟨false, some 2⟩

/-- `encode_marker_document`. -/
def encodeMarkerDocument (entries : List Json) (updatedUtc : Text) : Except MarkerError Text := do
  let document ← validatedDocument D (markerDocumentJson updatedUtc entries)
  let encoded := document.json.write markerLayout 0 ++ [10]
  if ¬ Encodable encoded then throw .unicodeEncode
  else if maxMarkerRegistryBytes < (encoded.flatMap utf8Char).length then
    throw (.registry "Marker document exceeds the byte limit")
  else return encoded

variable (F : FloatReader)

/-- `load_marker_document`, of the bytes of the registry if it is there. -/
def loadMarkerDocument : Option (List ℕ) → Except MarkerError (MarkerDocument D)
  | none => .error .fileNotFound
  | some bytes =>
    if maxMarkerRegistryBytes < bytes.length then .error (.registry "Marker registry exceeds the byte limit")
    else
      match decodeUtf8 bytes >>= fun payload => Json.readText ⟨F, true, true⟩ payload with
      | none => .error (.registry "Marker registry is not valid UTF-8 JSON")
      | some v => validatedDocument D v

/-! ### What was encoded -/

variable {D F}

/-- An entry passes the checks as it is. -/
theorem validatedEntry_json (e : MarkerEntry D) : validatedEntry D e.json = .ok e := by
  have hidentity : markerIdentity (.array (e.fileIdentity.map .int)) = .ok ⟨e.fileIdentity, e.identity⟩ := by
    have h := normalizedEventIdentity_int e.identity
    rw [markerIdentity]
    split
    · next i hi => simp [Option.some.inj (hi.symm.trans h)]
    · next hnone => simp [hnone] at h
  have hpath : canonicalContainerPath (.str e.containerPath) = .ok ⟨e.containerPath, e.canonical⟩ :=
    dif_pos e.canonical
  have hkind : supportedKind (.str e.failureKind) = .ok ⟨e.failureKind, e.supported⟩ := dif_pos e.supported
  have hcount : positiveCount (.int e.failureCount) = .ok ⟨e.failureCount, e.positive⟩ := dif_pos e.positive
  have hupdated : ∀ name, validatedTimestamp D name (.str e.updatedUtc) = .ok ⟨e.updatedUtc, e.updated⟩ :=
    fun _ => dif_pos e.updated
  have hcreated : ∀ name, validatedTimestamp D name (.str e.createdUtc) = .ok ⟨e.createdUtc, e.created⟩ :=
    fun _ => dif_pos e.created
  have hfalsy : isFalsy (.str e.createdUtc) = false := by
    cases hstr : e.createdUtc with
    | nil => exact absurd e.created (by simp [hstr, isUtcStamp])
    | cons c t => rfl
  have hkeys : [text "container_path", text "file_identity", text "failure_kind", text "failure_count",
      text "created_utc", text "updated_utc"].isPerm entryKeys = true := by decide
  have hbuild : buildMarkerEntry D (.str e.containerPath) (.array (e.fileIdentity.map .int)) (.str e.failureKind)
      (.int e.failureCount) (.str e.updatedUtc) (.str e.createdUtc) = .ok e := by
    rw [buildMarkerEntry, hpath, hidentity, hkind, hcount, hupdated, hfalsy]
    simp only [Bool.false_eq_true, if_false, hcreated]
    rfl
  rw [MarkerFields.json, validatedEntry, if_pos (by exact hkeys)]
  exact hbuild

theorem isSchemaVersion_one : isSchemaVersion (.int 1) = true := rfl

theorem documentOf_eq_ok {updated : {t : Text // isUtcStamp D t = true}} {markers : List Json}
    {hbounded : markers.length ≤ maxMarkerEntries} {d : MarkerDocument D} :
    documentOf D updated markers hbounded = .ok d ↔ d.updatedUtc = updated.1 ∧
      ∃ entries, validatedMarkers D [] markers = .ok entries ∧ d.markers = sortMarkers entries := by
  obtain ⟨t, sorted, hstamp, hlength, hsorted⟩ := d
  rw [documentOf]
  split
  · next e he => simp [he]
  · next entries hentries =>
    simp only [hentries, Except.ok.injEq, MarkerDocument.mk.injEq, exists_eq_left']
    constructor <;> exact fun h => ⟨h.1.symm, h.2.symm⟩

/-- What the document of some entries is: their checked fields, sorted. -/
theorem validatedDocument_eq_ok {entries : List Json} {t : Text} {d : MarkerDocument D} :
    validatedDocument D (markerDocumentJson t entries) = .ok d ↔ d.updatedUtc = t ∧
      entries.length ≤ maxMarkerEntries ∧ ∃ checked : List (MarkerEntry D),
        List.Forall₂ (fun marker entry => validatedEntry D marker = .ok entry) entries checked ∧
          (checked.map fun e => e.containerPath).Nodup ∧ d.markers = sortMarkers checked := by
  have hkeys : [text "schema_version", text "updated_utc", text "markers"].isPerm documentKeys = true := by decide
  have hvalid : validatedDocument D (markerDocumentJson t entries) =
      (validatedTimestamp D "document updated_utc" (.str t) >>= fun updated =>
        if h : entries.length ≤ maxMarkerEntries then documentOf D updated entries h
        else .error (.registry "Marker list is invalid or exceeds the entry limit")) := by
    rw [markerDocumentJson, validatedDocument, if_neg (by exact not_not.2 hkeys),
      if_neg (by exact not_not.2 isSchemaVersion_one)]
    rfl
  rw [hvalid, Procedure.bind_eq_ok]
  constructor
  · rintro ⟨updated, hupdated, hdocument⟩
    rw [validatedTimestamp] at hupdated
    split_ifs at hupdated with hstamp
    obtain rfl := Except.ok.inj hupdated
    split_ifs at hdocument with hbounded
    obtain ⟨ht, checked, hchecked, hmarkers⟩ := documentOf_eq_ok.1 hdocument
    obtain ⟨hall, hnodup, -⟩ := (validatedMarkers_eq_ok D).1 hchecked
    exact ⟨ht, hbounded, checked, hall, hnodup, hmarkers⟩
  · rintro ⟨rfl, hbounded, checked, hall, hnodup, hmarkers⟩
    refine ⟨⟨d.updatedUtc, d.stamp⟩, dif_pos d.stamp, ?_⟩
    rw [dif_pos hbounded]
    exact documentOf_eq_ok.2 ⟨rfl, checked,
      (validatedMarkers_eq_ok D).2 ⟨hall, hnodup, fun _ _ => List.not_mem_nil⟩, hmarkers⟩

/-- A document passes the checks as it is. -/
theorem validatedDocument_json (d : MarkerDocument D) : validatedDocument D d.json = .ok d := by
  have hall : List.Forall₂ (fun marker entry => validatedEntry D marker = .ok entry)
      (d.markers.map fun e => e.json) d.markers := by
    rw [List.forall₂_map_left_iff, List.forall₂_same]
    exact fun e _ => validatedEntry_json e
  have hnodup : (d.markers.map fun e => e.containerPath).Nodup := by
    rw [List.Nodup, List.pairwise_map]
    exact d.sorted.imp ne_of_lt
  have hsort : sortMarkers d.markers = d.markers := (d.sorted.imp le_of_lt).insertionSort_eq
  rw [MarkerDocument.json, validatedDocument_eq_ok, List.length_map]
  exact ⟨rfl, d.bounded, d.markers, hall, hnodup, hsort.symm⟩

/-- The document does not depend on the order of its entries. -/
theorem validatedDocument_perm {entries entries' : List Json} {t : Text} {d : MarkerDocument D}
    (hperm : entries'.Perm entries) (h : validatedDocument D (markerDocumentJson t entries) = .ok d) :
    validatedDocument D (markerDocumentJson t entries') = .ok d := by
  obtain ⟨ht, hbounded, checked, hall, hnodup, hmarkers⟩ := validatedDocument_eq_ok.1 h
  obtain ⟨checked', hall', hperm'⟩ := List.perm_comp_forall₂ hperm hall
  have hnodup' : (checked'.map fun e => e.containerPath).Nodup := (hperm'.map _).nodup_iff.2 hnodup
  have hsort : sortMarkers checked' = sortMarkers checked := by
    refine List.Perm.eq_of_pairwise (fun a b _ _ hab hba => absurd hab (lt_asymm hba))
      (sorted_sortMarkers hnodup') (sorted_sortMarkers hnodup) ?_
    exact (List.perm_insertionSort _ _).trans (hperm'.trans (List.perm_insertionSort _ _).symm)
  refine validatedDocument_eq_ok.2 ⟨ht, hperm.length_eq.trans_le hbounded, checked', hall', hnodup', ?_⟩
  rw [hmarkers, hsort]

/-- An entry can be read if its strings can be encoded. -/
theorem MarkerFields.readable_json {e : MarkerFields} (h : ∀ s ∈ e.json.texts, Encodable s) :
    e.json.Readable := by
  have hpoints : ∀ s ∈ e.json.texts, Json.CodePoints s := fun s hs => Json.codePoints_of_encodable (h s hs)
  have hkeys : (entryKeys.map Json.joinSurrogates).Nodup := by decide
  have hints : (Json.array (e.fileIdentity.map .int)).Readable := by
    refine Json.readableElements_iff.2 fun v hv => ?_
    obtain ⟨n, -, rfl⟩ := List.mem_map.1 hv
    trivial
  simp only [MarkerFields.json, Json.texts, Json.mem_textsMembers] at hpoints
  refine ⟨hkeys, Json.readableMembers_iff.2 fun item hitem =>
    ⟨hpoints _ ⟨item, hitem, .inl rfl⟩, ?_⟩⟩
  simp only [List.mem_cons, List.not_mem_nil, or_false] at hitem
  rcases hitem with rfl | rfl | rfl | rfl | rfl | rfl
  · exact hpoints _ ⟨_, List.mem_cons_self, .inr (List.mem_singleton_self _)⟩
  · exact hints
  · exact hpoints _ ⟨(text "failure_kind", .str e.failureKind), by simp, .inr (List.mem_singleton_self _)⟩
  · trivial
  · exact hpoints _ ⟨(text "created_utc", .str e.createdUtc), by simp, .inr (List.mem_singleton_self _)⟩
  · exact hpoints _ ⟨(text "updated_utc", .str e.updatedUtc), by simp, .inr (List.mem_singleton_self _)⟩

theorem MarkerDocument.readable_json {d : MarkerDocument D} (h : ∀ s ∈ d.json.texts, Encodable s) :
    d.json.Readable := by
  have hkeys : (documentKeys.map Json.joinSurrogates).Nodup := by decide
  rw [MarkerDocument.json, markerDocumentJson] at h ⊢
  simp only [Json.texts, Json.mem_textsMembers] at h
  refine ⟨hkeys, Json.readableMembers_iff.2 fun item hitem =>
    ⟨Json.codePoints_of_encodable (h _ ⟨item, hitem, .inl rfl⟩), ?_⟩⟩
  simp only [List.mem_cons, List.not_mem_nil, or_false] at hitem
  rcases hitem with rfl | rfl | rfl
  · trivial
  · exact Json.codePoints_of_encodable
      (h _ ⟨(text "updated_utc", .str d.updatedUtc), by simp, .inr (List.mem_singleton_self _)⟩)
  · refine Json.readableElements_iff.2 fun v hv => ?_
    obtain ⟨e, he, rfl⟩ := List.mem_map.1 hv
    refine MarkerFields.readable_json fun s hs => h s ⟨_, List.mem_cons_of_mem _ (List.mem_cons_of_mem _
      List.mem_cons_self), .inr ?_⟩
    exact Json.mem_textsElements.2 ⟨_, hv, hs⟩

/-- What was encoded is loaded again. -/
theorem loadMarkerDocument_encode {entries : List Json} {t encoded : Text}
    (h : encodeMarkerDocument D entries t = .ok encoded) :
    ∃ d, validatedDocument D (markerDocumentJson t entries) = .ok d ∧
      loadMarkerDocument D F (some (encoded.flatMap utf8Char)) = .ok d := by
  obtain ⟨d, hd, h⟩ := Procedure.bind_eq_ok.1 h
  refine ⟨d, hd, ?_⟩
  dsimp only at h
  split_ifs at h with hencodable hlong
  obtain rfl := Except.ok.inj h
  have htexts : ∀ s ∈ d.json.texts, Encodable s := fun s hs => Json.encodable_texts rfl hencodable hs
  have hspace : ∀ c ∈ ([10] : Text), Json.isSpace c = true := by decide
  rw [loadMarkerDocument, if_neg hlong, decodeUtf8_encode hencodable, Option.bind_eq_bind, Option.bind_some,
    Json.readText_write 0 (MarkerDocument.readable_json htexts) hspace, Json.norm_eq_self _ htexts]
  exact validatedDocument_json d

theorem encodeMarkerDocument_perm {entries entries' : List Json} {t encoded : Text}
    (hperm : entries'.Perm entries) (h : encodeMarkerDocument D entries t = .ok encoded) :
    encodeMarkerDocument D entries' t = .ok encoded := by
  obtain ⟨d, hd, h⟩ := Procedure.bind_eq_ok.1 h
  exact Procedure.bind_eq_ok.2 ⟨d, validatedDocument_perm hperm hd, h⟩

end Document

end Failures

end Subgen

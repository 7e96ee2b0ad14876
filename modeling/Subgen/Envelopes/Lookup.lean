import Subgen.Envelopes.Codec

/-!
# The envelope of an image, a runtime and a policy

`findExactEnvelope` and `resolveEnvelope`, which reads the catalog and the identity of the image first. What a
file holds, or what is raised when it is read, is given.

The keys of a catalog are distinct, so that at most one envelope matches, wherever it stands
(`findExactEnvelope_perm`). A resolution is an exact match, or it says for what reason there is none. Without a
match it falls back on the public budgets or fails closed; with a canonical shared device it always fails
closed (`resolveEnvelope_ne_publicFallback`).

* `findExactEnvelope_eq_some`: the envelope that is found has the image, the runtime and the policy asked for;
* `resolveEnvelope_eq_exactMatch`: when the whole resolution ends with it;
* `catalog_exact`: the round trip, the distinct keys and the look-up together.
-/

namespace Subgen

namespace Envelopes

open ArtifactValidationError

variable {F : FloatReader} {sha256 : Sha256}

/-- `find_exact_envelope`. -/
def findExactEnvelope (c : ModelEnvelopeCatalog sha256) (image : ImageIdentity) (runtime : RuntimeIdentity)
    (policy : EnvelopePolicy) : Option ModelEnvelope :=
  c.entries.find? fun e => e.matchKey = ⟨image, runtime, policy⟩

/-- What `_read_artifact_bytes` raises; `other` is caught nowhere. -/
inductive ReadError
  | fileNotFound
  | security
  | validation (e : ArtifactValidationError)
  | osError
  | other

/-- `RESOLUTION_REASON_CODES`. -/
inductive ResolutionReason
  | catalogMissing
  | catalogUnreadable
  | catalogUnsafe
  | catalogInvalid
  | identityMissing
  | identityUnreadable
  | identityUnsafe
  | identityInvalid
  | imageIdentityMismatch
  | identityNotInCatalog
  | runtimePolicyMismatch
  | canonicalProvenanceMissing
  deriving DecidableEq

/-- `EnvelopeResolution`, which has an envelope or a reason. -/
inductive EnvelopeResolution
  | exactMatch (envelope : ModelEnvelope)
  | publicFallback (reason : ResolutionReason)
  | failClosed (reason : ResolutionReason)
  deriving DecidableEq

/-- What `resolve_envelope` itself raises: `expected_uid_type`, or what is not caught. -/
inductive ResolveError
  | refused (code : String)
  | other

/-- `_failure_resolution`. -/
def failureResolution (reason : ResolutionReason) (canonicalSharedCuda : Bool) : EnvelopeResolution :=
  if canonicalSharedCuda = true then .failClosed reason else .publicFallback reason

/-- `load_catalog`. -/
def loadCatalog (F : FloatReader) (sha256 : Sha256) (raw : Except ReadError (List ℕ)) :
    Except ReadError (ModelEnvelopeCatalog sha256) := do
  (parseCatalogBytes F sha256 (← raw)).mapError .validation

/-- `load_identity`. -/
def loadIdentity (F : FloatReader) (raw : Except ReadError (List ℕ)) : Except ReadError ImageIdentity := do
  (parseIdentityBytes F (← raw)).mapError .validation

/-- What the inputs of `resolve_envelope` hold besides the files. -/
structure ResolveRequest where
  runtime : RuntimeIdentity
  policy : EnvelopePolicy
  canonicalSharedCuda : Bool
  expectedImageIdentity : Option ImageIdentity
  expectedUid : Option ℤ

/-- The handlers of an artifact that cannot be read. -/
def readFailure (r : ResolveRequest) (missing unsafeFile invalid unreadable : ResolutionReason) :
    ReadError → Except ResolveError EnvelopeResolution
  | .fileNotFound => .ok (failureResolution missing r.canonicalSharedCuda)
  | .security => .ok (failureResolution unsafeFile r.canonicalSharedCuda)
  | .validation _ => .ok (failureResolution invalid r.canonicalSharedCuda)
  | .osError => .ok (failureResolution unreadable r.canonicalSharedCuda)
  | .other => .error .other

/-- The part of `resolve_envelope` behind the two files. -/
def resolveLoaded (r : ResolveRequest) (c : ModelEnvelopeCatalog sha256) (image : ImageIdentity) :
    EnvelopeResolution :=
  if ∃ expected ∈ r.expectedImageIdentity, image ≠ expected then
    failureResolution .imageIdentityMismatch r.canonicalSharedCuda
  else if c.entries.filter (fun e => e.imageIdentity = image) = [] then
    failureResolution .identityNotInCatalog r.canonicalSharedCuda
  else
    match findExactEnvelope c image r.runtime r.policy with
    | none => failureResolution .runtimePolicyMismatch r.canonicalSharedCuda
    | some envelope => .exactMatch envelope

/-- `resolve_envelope`. -/
def resolveEnvelope (F : FloatReader) (sha256 : Sha256) (catalogRaw identityRaw : Except ReadError (List ℕ))
    (r : ResolveRequest) : Except ResolveError EnvelopeResolution :=
  if ∃ uid ∈ r.expectedUid, uid < 0 then .error (.refused "expected_uid_type")
  else if r.canonicalSharedCuda = true ∧ (r.expectedImageIdentity = none ∨ r.expectedUid = none) then
    .ok (failureResolution .canonicalProvenanceMissing true)
  else
    match loadCatalog F sha256 catalogRaw with
    | .error e => readFailure r .catalogMissing .catalogUnsafe .catalogInvalid .catalogUnreadable e
    | .ok c =>
      match loadIdentity F identityRaw with
      | .error e => readFailure r .identityMissing .identityUnsafe .identityInvalid .identityUnreadable e
      | .ok image => .ok (resolveLoaded r c image)

/-! ## What is found -/

section Find

variable (c c' : ModelEnvelopeCatalog sha256) {image : ImageIdentity} {runtime : RuntimeIdentity}
  {policy : EnvelopePolicy} {e : ModelEnvelope}

theorem matchKey_of_find (h : findExactEnvelope c image runtime policy = some e) :
    e.matchKey = ⟨image, runtime, policy⟩ :=
  of_decide_eq_true (List.find?_some (p := fun e : ModelEnvelope => e.matchKey = ⟨image, runtime, policy⟩) h)

theorem findExactEnvelope_eq_some : findExactEnvelope c image runtime policy = some e ↔
    e ∈ c.entries ∧ e.imageIdentity = image ∧ e.runtime = runtime ∧ e.policy = policy := by
  have hkey : e.matchKey = ⟨image, runtime, policy⟩ ↔
      e.imageIdentity = image ∧ e.runtime = runtime ∧ e.policy = policy := MatchKey.mk.injEq .. ▸ Iff.rfl
  rw [← hkey]
  constructor
  · intro h
    exact ⟨List.mem_of_find?_eq_some h, matchKey_of_find c h⟩
  · rintro ⟨hmem, heq⟩
    have hfound : (findExactEnvelope c image runtime policy).isSome = true :=
      List.find?_isSome.2 ⟨e, hmem, decide_eq_true heq⟩
    obtain ⟨found, hfound⟩ := Option.isSome_iff_exists.1 hfound
    have hkeys : found.matchKey = e.matchKey := (matchKey_of_find c hfound).trans heq.symm
    rw [hfound, List.inj_on_of_nodup_map c.nodup (List.mem_of_find?_eq_some hfound) hmem hkeys]

/-- The order of the entries does not matter. -/
theorem findExactEnvelope_perm (hperm : c'.entries.Perm c.entries) :
    findExactEnvelope c' image runtime policy = findExactEnvelope c image runtime policy := by
  refine Option.ext fun e => ?_
  rw [findExactEnvelope_eq_some, findExactEnvelope_eq_some, hperm.mem_iff]

end Find

/-- Entries in another order are a catalog as well. -/
theorem buildCatalog_perm (c : ModelEnvelopeCatalog sha256) {entries : List ModelEnvelope}
    (hperm : entries.Perm c.entries) :
    ∃ c', buildCatalog sha256 c.catalogVersion.1 entries = .ok c' ∧ c'.entries = entries := by
  have hlimit : ¬ maxCatalogEntries < entries.length := hperm.length_eq.trans_le c.bounded |>.not_gt
  have hnodup : (entries.map ModelEnvelope.matchKey).Nodup := (hperm.map _).nodup_iff.2 c.nodup
  refine ⟨⟨c.catalogVersion, entries, _, not_lt.1 hlimit, hnodup, rfl⟩, ?_, rfl⟩
  refine Procedure.bind_eq_ok.2 ⟨c.catalogVersion, dif_pos c.catalogVersion.2, ?_⟩
  rw [if_neg hlimit, if_neg (not_not.2 hnodup)]
  exact (dif_neg hlimit).trans ((dif_neg (not_not.2 hnodup)).trans (dif_neg (not_not.2 rfl)))

/-! ## What is resolved -/

section Resolve

variable {r : ResolveRequest} {catalogRaw identityRaw : Except ReadError (List ℕ)} {reason : ResolutionReason}

theorem failureResolution_ne_publicFallback (hcanonical : r.canonicalSharedCuda = true) (why : ResolutionReason) :
    failureResolution why r.canonicalSharedCuda ≠ .publicFallback reason := by
  rw [failureResolution, if_pos hcanonical]
  exact nofun

theorem failureResolution_ne_exactMatch {shared : Bool} {e : ModelEnvelope} (why : ResolutionReason) :
    failureResolution why shared ≠ .exactMatch e := by
  rw [failureResolution]
  split_ifs <;> exact nofun

theorem readFailure_eq_ok {e : ReadError} {missing unsafeFile invalid unreadable : ResolutionReason}
    {resolution : EnvelopeResolution} (h : readFailure r missing unsafeFile invalid unreadable e = .ok resolution) :
    ∃ why, resolution = failureResolution why r.canonicalSharedCuda := by
  cases e with
  | other => cases h
  | _ => exact ⟨_, (Except.ok.inj h).symm⟩

theorem resolveLoaded_ne_publicFallback (hcanonical : r.canonicalSharedCuda = true)
    (c : ModelEnvelopeCatalog sha256) (image : ImageIdentity) : resolveLoaded r c image ≠ .publicFallback reason := by
  rw [resolveLoaded]
  split_ifs
  · exact failureResolution_ne_publicFallback hcanonical _
  · exact failureResolution_ne_publicFallback hcanonical _
  · split
    · exact failureResolution_ne_publicFallback hcanonical _
    · exact nofun

/-- With a canonical shared device there is no public fallback. -/
theorem resolveEnvelope_ne_publicFallback (hcanonical : r.canonicalSharedCuda = true) :
    resolveEnvelope F sha256 catalogRaw identityRaw r ≠ .ok (.publicFallback reason) := by
  have hfailure : ∀ {e missing unsafeFile invalid unreadable},
      readFailure r missing unsafeFile invalid unreadable e ≠ .ok (.publicFallback reason) := by
    intro e missing unsafeFile invalid unreadable h
    obtain ⟨why, heq⟩ := readFailure_eq_ok h
    exact failureResolution_ne_publicFallback hcanonical why heq.symm
  intro h
  rw [resolveEnvelope] at h
  split_ifs at h
  · cases h
  · split at h
    · exact hfailure h
    · split at h
      · exact hfailure h
      · exact resolveLoaded_ne_publicFallback hcanonical _ _ (Except.ok.inj h)

theorem resolveLoaded_eq_exactMatch {c : ModelEnvelopeCatalog sha256} {image : ImageIdentity} {e : ModelEnvelope}
    (h : resolveLoaded r c image = .exactMatch e) :
    findExactEnvelope c image r.runtime r.policy = some e ∧ ∀ expected ∈ r.expectedImageIdentity, image = expected := by
  rw [resolveLoaded] at h
  split_ifs at h with hexpected hentries
  · exact absurd h (failureResolution_ne_exactMatch _)
  · exact absurd h (failureResolution_ne_exactMatch _)
  · push Not at hexpected
    split at h
    · exact absurd h (failureResolution_ne_exactMatch _)
    · next hfound =>
      cases h
      exact ⟨hfound, hexpected⟩

/-- An exact match is the entry of the catalog for the very image, runtime and policy. -/
theorem resolveEnvelope_eq_exactMatch {e : ModelEnvelope}
    (h : resolveEnvelope F sha256 catalogRaw identityRaw r = .ok (.exactMatch e)) :
    ∃ c, loadCatalog F sha256 catalogRaw = .ok c ∧ loadIdentity F identityRaw = .ok e.imageIdentity ∧
      e ∈ c.entries ∧ e.runtime = r.runtime ∧ e.policy = r.policy ∧
      ∀ expected ∈ r.expectedImageIdentity, e.imageIdentity = expected := by
  have hfailure : ∀ {e' missing unsafeFile invalid unreadable},
      readFailure r missing unsafeFile invalid unreadable e' ≠ .ok (.exactMatch e) := by
    intro e' missing unsafeFile invalid unreadable h
    obtain ⟨why, heq⟩ := readFailure_eq_ok h
    exact failureResolution_ne_exactMatch why heq.symm
  rw [resolveEnvelope] at h
  split_ifs at h
  · exact absurd (Except.ok.inj h) (failureResolution_ne_exactMatch _)
  · split at h
    · exact absurd h hfailure
    · next c hcatalog =>
      split at h
      · exact absurd h hfailure
      · next image himage =>
        obtain ⟨hfound, hexpected⟩ := resolveLoaded_eq_exactMatch (Except.ok.inj h)
        obtain ⟨hmem, rfl, hruntime, hpolicy⟩ := (findExactEnvelope_eq_some c).1 hfound
        exact ⟨c, hcatalog, himage, hmem, hruntime, hpolicy, hexpected⟩

end Resolve

/-- The codec and the look-up are exact. -/
theorem catalog_exact (F : FloatReader) (sha256 : Sha256) :
    (∀ version entries c, buildCatalog sha256 version entries = .ok c →
      parseCatalogBytes F sha256 (serializeCatalog c) = .ok c) ∧
    (∀ raw c, parseCatalogBytes F sha256 raw = .ok c →
      parseCatalogBytes F sha256 (serializeCatalog c) = .ok c ∧ (c.entries.map ModelEnvelope.matchKey).Nodup) ∧
    (∀ (c : ModelEnvelopeCatalog sha256) entries, entries.Perm c.entries →
      ∃ c', buildCatalog sha256 c.catalogVersion.1 entries = .ok c' ∧ c'.entries = entries ∧
        ∀ image runtime policy, findExactEnvelope c' image runtime policy = findExactEnvelope c image runtime policy) ∧
    (∀ (c : ModelEnvelopeCatalog sha256) image runtime policy e,
      findExactEnvelope c image runtime policy = some e ↔
        e ∈ c.entries ∧ e.imageIdentity = image ∧ e.runtime = runtime ∧ e.policy = policy) ∧
    (∀ catalogRaw identityRaw r reason, r.canonicalSharedCuda = true →
      resolveEnvelope F sha256 catalogRaw identityRaw r ≠ .ok (.publicFallback reason)) ∧
    ∀ catalogRaw identityRaw r e, resolveEnvelope F sha256 catalogRaw identityRaw r = .ok (.exactMatch e) →
      ∃ c, loadCatalog F sha256 catalogRaw = .ok c ∧ loadIdentity F identityRaw = .ok e.imageIdentity ∧
        e ∈ c.entries ∧ e.runtime = r.runtime ∧ e.policy = r.policy ∧
        ∀ expected ∈ r.expectedImageIdentity, e.imageIdentity = expected := by
  refine ⟨fun _ _ c _ => parseCatalogBytes_serializeCatalog c,
    fun _ c _ => ⟨parseCatalogBytes_serializeCatalog c, c.nodup⟩, fun c entries hperm => ?_,
    fun c _ _ _ _ => findExactEnvelope_eq_some c, fun _ _ _ _ => resolveEnvelope_ne_publicFallback,
    fun _ _ _ _ => resolveEnvelope_eq_exactMatch⟩
  obtain ⟨c', hbuild, rfl⟩ := buildCatalog_perm c hperm
  exact ⟨c', hbuild, rfl, fun _ _ _ => findExactEnvelope_perm c c' hperm⟩

end Envelopes

end Subgen

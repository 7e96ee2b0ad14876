import Subgen.Lib.Procedure
import Subgen.Signal.Publication

/-!
# Writer and reader of the signal

The bytes a reader accepts are those that the writer makes of arguments it accepts, with one
exception: a schema that is written as the float `1.0` is equal to one, is written in the
same way again, and so passes (`codec_exact_iff`). Nothing but the checks of the fields and
the canonical form is used for that: bytes that are accepted are the ones the mapping in
them is written as, and the checks leave nothing of the mapping open.
-/

namespace Subgen

open Json Procedure

variable {F : FloatReader} {sha256 : List UInt8 → String}

/-! ## Checks -/

/-- What passes as a hexadecimal text. -/
theorem requireHex_eq_ok {name : String} {n : ℕ} {v : Json} {s : Text} :
    requireHex name n v = .ok s ↔ v = .str s ∧ isHex n s = true := by
  cases v with
  | str s' =>
    rw [requireHex]
    split
    · next h =>
      simp only [Except.ok.injEq, Json.str.injEq]
      exact ⟨fun heq => ⟨heq, heq ▸ h⟩, fun h => h.1⟩
    · next h =>
      simp only [reduceCtorEq, Json.str.injEq, false_iff, not_and]
      exact fun heq => heq ▸ h
  | _ => simp [requireHex]

/-- What passes as a positive number. -/
theorem positiveInt_eq_ok {name : String} {v : Json} {n : ℤ} :
    positiveInt v name = .ok n ↔ v = .int n ∧ 1 ≤ n ∧ n ≤ maxGeneration := by
  cases v with
  | int m =>
    rw [positiveInt]
    split
    · next h =>
      simp only [Except.ok.injEq, Json.int.injEq]
      exact ⟨fun heq => ⟨heq, heq ▸ h⟩, fun h => h.1⟩
    · next h =>
      simp only [reduceCtorEq, Json.int.injEq, false_iff, not_and]
      exact fun heq h1 h2 => h (heq ▸ ⟨h1, h2⟩)
  | _ => simp [positiveInt]

/-- What passes as two truth values. -/
theorem requireFlags_eq_ok {v w : Json} {flags : Bool × Bool} :
    requireFlags v w = .ok flags ↔ v = .bool flags.1 ∧ w = .bool flags.2 := by
  obtain ⟨p, c⟩ := flags
  cases v <;> cases w <;> simp [requireFlags]

/-- What passes as a list of texts. -/
theorem strings_eq_some {items : List Json} {l : List Text} :
    strings items = some l ↔ items = l.map .str := by
  induction items generalizing l with
  | nil => simp [strings, eq_comm]
  | cons v items ih =>
    cases v with
    | str s => cases l <;> simp [strings, ih, and_comm]
    | _ => cases l <;> simp [strings]

/-- Reasons that are known, sorted and distinct. -/
def ReasonsValid (reasons : List Text) : Prop :=
  reasons = sortedSet reasons ∧ reasons.length ≤ 4 ∧ ∀ r ∈ reasons, r ∈ signalReasons

/-- What passes as a list of reasons. -/
theorem requireReasons_eq_ok {v : Json} {reasons : List Text} :
    requireReasons v = .ok reasons ↔ v = .array (reasons.map .str) ∧ ReasonsValid reasons := by
  cases v with
  | array items =>
    rw [requireReasons]
    cases hstrings : strings items with
    | none =>
      simp only [reduceCtorEq, Json.array.injEq, false_iff, not_and]
      intro heq
      rw [strings_eq_some.2 heq] at hstrings
      cases hstrings
    | some l =>
      obtain rfl := strings_eq_some.1 hstrings
      have hinj : l.map Json.str = reasons.map Json.str ↔ l = reasons :=
        List.map_inj_right fun _ _ h => Json.str.inj h
      simp only [Json.array.injEq, hinj, ReasonsValid]
      split
      · next h =>
        simp only [reduceCtorEq, false_iff, not_and]
        rintro rfl hsorted hlength hknown
        simp only [List.any_eq_true, decide_eq_true_eq] at h
        rcases h with h | h | ⟨r, hr, hr'⟩
        · exact h hsorted
        · omega
        · exact hr' (hknown r hr)
      · next h =>
        simp only [List.any_eq_true, decide_eq_true_eq, not_or, not_not, not_lt, not_exists,
          not_and] at h
        simp only [Except.ok.injEq]
        exact ⟨fun heq => ⟨heq, heq ▸ h⟩, fun h => h.1⟩
  | _ => simp [requireReasons]

/-- What passes as the times of a signal. -/
theorem requireTimes_eq_ok {source observed now : ℤ} {u : Unit} :
    requireTimes source observed now = .ok u ↔ source ≤ observed ∧ observed ≤ now ∧
      now - observed ≤ heartbeatMaxAgeNs ∧ now - source ≤ sourceMaxAgeNs := by
  rw [requireTimes]
  by_cases horder : source ≤ observed ∧ observed ≤ now
  · rw [if_neg (not_not.2 horder)]
    by_cases hstale : heartbeatMaxAgeNs < now - observed ∨ sourceMaxAgeNs < now - source
    · rw [if_pos hstale]
      simp only [reduceCtorEq, false_iff]
      omega
    · rw [if_neg hstale]
      simp only [true_iff]
      omega
  · rw [if_pos horder]
    simp only [reduceCtorEq, false_iff]
    exact fun h => horder ⟨h.1, h.2.1⟩

/-- What is equal to one in Python, of what JSON can hold. -/
theorem equalsOne_eq_true {v : Json} :
    equalsOne v = true ↔ v = .int 1 ∨ v = .float (some (text "1.0")) := by
  cases v <;> simp [equalsOne]

/-- What passes as the schema. -/
theorem requireSchema_eq_ok {v : Json} {u : Unit} :
    requireSchema v = .ok u ↔ equalsOne v = true := by
  rw [requireSchema]
  split
  · next h => simp [h]
  · next h => simp [h]

/-- What passes as the hash of the boot. -/
theorem requireBoot_eq_ok {boot bootHash : Text} {u : Unit} :
    requireBoot boot bootHash = .ok u ↔ boot = bootHash := by
  rw [requireBoot]
  split
  · next h => simp [h]
  · next h => simpa using h

namespace PublicationArguments

variable {a : PublicationArguments} {schema : Json} {value : List (Text × Json)}

/-- The state that the flags stand for. -/
def state (a : PublicationArguments) : PriorityState :=
  if a.pressure then .asserted else if a.clearEligible then .clear else .neutral

/-- Arguments that the writer accepts. -/
structure Valid (a : PublicationArguments) : Prop where
  boot : isHex 64 a.bootIdSha256 = true
  epoch : isHex 32 a.producerEpoch = true
  observation : isHex 64 a.observationId = true
  policy : isHex 64 a.policySha256 = true
  sequence : 1 ≤ a.sequence ∧ a.sequence ≤ maxGeneration
  observed : 1 ≤ a.observedMonotonicNs ∧ a.observedMonotonicNs ≤ maxGeneration
  generation : 1 ≤ a.sourceGeneration ∧ a.sourceGeneration ≤ maxGeneration
  source : 1 ≤ a.sourceObservedMonotonicNs ∧ a.sourceObservedMonotonicNs ≤ maxGeneration
  times : a.sourceObservedMonotonicNs ≤ a.observedMonotonicNs
  reasons : ReasonsValid a.reasonCodes
  consistent : requireState a.pressure a.clearEligible a.reasonCodes = .ok a.state

/-- Not too old at the time `nowNs`. -/
def Fresh (a : PublicationArguments) (nowNs : ℤ) : Prop :=
  a.observedMonotonicNs ≤ nowNs ∧ nowNs - a.observedMonotonicNs ≤ heartbeatMaxAgeNs ∧
    nowNs - a.sourceObservedMonotonicNs ≤ sourceMaxAgeNs

/-- The state is the one of the arguments. -/
theorem eq_state_of_requireState {s : PriorityState}
    (h : requireState a.pressure a.clearEligible a.reasonCodes = .ok s) : s = a.state := by
  rw [requireState] at h
  rw [state]
  split_ifs at h ⊢ <;> simpa using h.symm

/-- The arguments that pass all checks are the valid ones. -/
theorem check_eq_ok {s : PriorityState} : a.check = .ok s ↔ a.Valid ∧ s = a.state := by
  simp only [check, bind_eq_ok, requireHex_eq_ok, positiveInt_eq_ok, Json.str.injEq,
    Json.int.injEq]
  constructor
  · rintro ⟨_, ⟨rfl, hboot⟩, _, ⟨rfl, hepoch⟩, _, ⟨rfl, hobservation⟩, _, ⟨rfl, hpolicy⟩, _,
      ⟨rfl, hsequence⟩, _, ⟨rfl, hobserved⟩, _, ⟨rfl, hgeneration⟩, _, ⟨rfl, hsource⟩, h⟩
    split at h
    · cases h
    · next htimes =>
      simp only [bind_eq_ok, requireFlags_eq_ok, requireReasons_eq_ok, Json.bool.injEq,
        Json.array.injEq] at h
      obtain ⟨⟨p, c⟩, ⟨rfl, rfl⟩, reasons, ⟨hmap, hreasons⟩, hstate⟩ := h
      obtain rfl := List.map_injective_iff.2 (fun _ _ h => Json.str.inj h) hmap
      obtain rfl := eq_state_of_requireState hstate
      exact ⟨⟨hboot, hepoch, hobservation, hpolicy, hsequence, hobserved, hgeneration, hsource,
        not_lt.1 htimes, hreasons, hstate⟩, rfl⟩
  · rintro ⟨h, rfl⟩
    refine ⟨_, ⟨rfl, h.boot⟩, _, ⟨rfl, h.epoch⟩, _, ⟨rfl, h.observation⟩, _, ⟨rfl, h.policy⟩, _,
      ⟨rfl, h.sequence⟩, _, ⟨rfl, h.observed⟩, _, ⟨rfl, h.generation⟩, _, ⟨rfl, h.source⟩, ?_⟩
    rw [if_neg (not_lt.2 h.times)]
    simp only [bind_eq_ok, requireFlags_eq_ok, requireReasons_eq_ok]
    exact ⟨(a.pressure, a.clearEligible), ⟨rfl, rfl⟩, a.reasonCodes, ⟨rfl, h.reasons⟩, h.consistent⟩

/-! ## The values of a mapping -/

/-- The mapping holds these arguments. -/
structure In (a : PublicationArguments) (value : List (Text × Json)) : Prop where
  boot : get value (text "boot_id_sha256") = .str a.bootIdSha256
  epoch : get value (text "producer_epoch") = .str a.producerEpoch
  sequence : get value (text "sequence") = .int a.sequence
  observed : get value (text "observed_monotonic_ns") = .int a.observedMonotonicNs
  generation : get value (text "source_generation") = .int a.sourceGeneration
  source : get value (text "source_observed_monotonic_ns") = .int a.sourceObservedMonotonicNs
  observation : get value (text "observation_id") = .str a.observationId
  policy : get value (text "policy_sha256") = .str a.policySha256
  pressure : get value (text "pressure") = .bool a.pressure
  clearEligible : get value (text "clear_eligible") = .bool a.clearEligible
  reasons : get value (text "reason_codes") = .array (a.reasonCodes.map .str)

/-- What the reader makes of them. -/
def parsed (a : PublicationArguments) (sha256 : List UInt8 → String) (nowNs : ℤ) : ParsedSignal where
  state := a.state
  epoch := a.producerEpoch
  sequence := a.sequence
  observedNs := a.observedMonotonicNs
  sourceGeneration := a.sourceGeneration
  sourceObservedNs := a.sourceObservedMonotonicNs
  heartbeatAgeMs := min 60000 ((nowNs - a.observedMonotonicNs) / 1000000)
  sourceAgeMs := min 60000 ((nowNs - a.sourceObservedMonotonicNs) / 1000000)
  policySha256 := a.policySha256
  observationDigest := sha256 (asciiBytes a.observationId)
  reasonCodes := a.reasonCodes

/-- The reader accepts the values the writer does, as long as they are fresh and of its boot. -/
theorem validateValue_eq_ok {nowNs : ℤ} {bootHash : Text} {p : ParsedSignal} :
    validateValue sha256 value nowNs bootHash = .ok p ↔
      equalsOne (get value (text "schema")) = true ∧ ∃ a : PublicationArguments, a.In value ∧
        a.Valid ∧ a.bootIdSha256 = bootHash ∧ a.Fresh nowNs ∧ p = a.parsed sha256 nowNs := by
  simp only [validateValue, bind_eq_ok, requireHex_eq_ok, positiveInt_eq_ok, requireFlags_eq_ok,
    requireReasons_eq_ok, requireSchema_eq_ok, requireBoot_eq_ok, requireTimes_eq_ok]
  constructor
  · rintro ⟨_, hschema, boot, ⟨hboot, hboot'⟩, observation, ⟨hobservation, hobservation'⟩, policy,
      ⟨hpolicy, hpolicy'⟩, _, rfl, epoch, ⟨hepoch, hepoch'⟩, sequence, ⟨hsequence, hsequence'⟩,
      observed, ⟨hobserved, hobserved'⟩, generation, ⟨hgeneration, hgeneration'⟩, source,
      ⟨hsource, hsource'⟩, _, ⟨htimes, hnow, hheartbeat, hage⟩, ⟨p, c⟩, ⟨hp, hc⟩, reasons,
      ⟨hreasons, hreasons'⟩, s, hstate, heq⟩
    let a : PublicationArguments := ⟨boot, epoch, sequence, observed, generation, source, observation,
      policy, p, c, reasons⟩
    obtain rfl : s = a.state := eq_state_of_requireState hstate
    exact ⟨hschema, a, ⟨hboot, hepoch, hsequence, hobserved, hgeneration, hsource, hobservation,
      hpolicy, hp, hc, hreasons⟩, ⟨hboot', hepoch', hobservation', hpolicy', hsequence', hobserved',
      hgeneration', hsource', htimes, hreasons', hstate⟩, rfl, ⟨hnow, hheartbeat, hage⟩,
      (Except.ok.inj heq).symm⟩
  · rintro ⟨hschema, a, hin, hvalid, rfl, ⟨hnow, hheartbeat, hage⟩, rfl⟩
    exact ⟨(), hschema, _, ⟨hin.boot, hvalid.boot⟩, _, ⟨hin.observation, hvalid.observation⟩, _,
      ⟨hin.policy, hvalid.policy⟩, (), rfl, _, ⟨hin.epoch, hvalid.epoch⟩, _,
      ⟨hin.sequence, hvalid.sequence⟩, _, ⟨hin.observed, hvalid.observed⟩, _,
      ⟨hin.generation, hvalid.generation⟩, _, ⟨hin.source, hvalid.source⟩, (),
      ⟨hvalid.times, hnow, hheartbeat, hage⟩, (a.pressure, a.clearEligible),
      ⟨hin.pressure, hin.clearEligible⟩, _, ⟨hin.reasons, hvalid.reasons⟩, _, hvalid.consistent, rfl⟩

/-! ## The canonical form -/

/-- The mapping in the order in which it is written. -/
def canonical (a : PublicationArguments) (schema : Json) : List (Text × Json) :=
  signalKeys.map fun k => (k, get (a.items schema) k)

/-- The bytes of a publication. -/
def bytes (a : PublicationArguments) (schema : Json) : List UInt8 :=
  asciiBytes (Json.object (a.canonical schema)).print ++ [newline]

/-- The keys are sorted. -/
theorem signalKeys_sorted : signalKeys.Pairwise (· < ·) := by decide +kernel

/-- They are distinct. -/
theorem signalKeys_nodup : signalKeys.Nodup := signalKeys_sorted.imp ne_of_lt

/-- They are the keys of the canonical members. -/
theorem map_fst_canonical : (a.canonical schema).map Prod.fst = signalKeys := by
  rw [canonical, List.map_map]
  exact List.map_id signalKeys

/-- A canonical member is the one of the arguments. -/
theorem get_canonical {k : Text} (hk : k ∈ signalKeys) :
    get (a.canonical schema) k = get (a.items schema) k := by
  refine get_of_mem (by rw [map_fst_canonical]; exact signalKeys_nodup) ?_
  exact List.mem_map.2 ⟨k, hk, rfl⟩

/-- The schema is found among them. -/
theorem get_canonical_schema : get (a.canonical schema) (text "schema") = schema :=
  get_canonical (by decide)

/-- The arguments are found in the canonical members. -/
theorem in_canonical : a.In (a.canonical schema) where
  boot := get_canonical (by decide)
  epoch := get_canonical (by decide)
  sequence := get_canonical (by decide)
  observed := get_canonical (by decide)
  generation := get_canonical (by decide)
  source := get_canonical (by decide)
  observation := get_canonical (by decide)
  policy := get_canonical (by decide)
  pressure := get_canonical (by decide)
  clearEligible := get_canonical (by decide)
  reasons := get_canonical (by decide)

/-- The mapping holds the arguments and this schema, and nothing else. -/
theorem In.get_eq (hin : a.In value) (hschema : get value (text "schema") = schema) :
    ∀ k ∈ signalKeys, get value k = get (a.items schema) k := by
  simp only [signalKeys, List.forall_mem_cons]
  exact ⟨hin.boot, hin.clearEligible, hin.observation, hin.observed, hin.policy, hin.pressure,
    hin.epoch, hin.reasons, hschema, hin.sequence, hin.generation, hin.source,
    fun _ h => absurd h List.not_mem_nil⟩

/-- Texts have no keys to sort. -/
theorem sortElements_strings (l : List Text) : sortElements (l.map .str) = l.map .str := by
  induction l with
  | nil => rfl
  | cons s l ih =>
    rw [List.map_cons, sortElements, ih]
    rfl

/-- Texts are no numbers. -/
theorem finiteElements_strings (l : List Text) : finiteElements (l.map .str) = true := by
  induction l with
  | nil => rfl
  | cons s l ih =>
    rw [List.map_cons, finiteElements, ih]
    rfl

/-- The members have no keys to sort. -/
theorem sortKeys_get (hschema : equalsOne schema = true) :
    ∀ k ∈ signalKeys, (get (a.items schema) k).sortKeys = get (a.items schema) k := by
  have hone : schema.sortKeys = schema := by
    rcases equalsOne_eq_true.1 hschema with rfl | rfl <;> rfl
  have hreasons : (Json.array (a.reasonCodes.map .str)).sortKeys = .array (a.reasonCodes.map .str) := by
    rw [sortKeys, sortElements_strings]
  simp only [signalKeys, List.forall_mem_cons]
  exact ⟨rfl, rfl, rfl, rfl, rfl, rfl, rfl, hreasons, hone, rfl, rfl, rfl,
    fun _ h => absurd h List.not_mem_nil⟩

/-- A mapping with the keys of a publication is written in their order. -/
theorem sortKeys_object (hnodup : (value.map Prod.fst).Nodup)
    (hkeys : ∀ k, k ∈ value.map Prod.fst ↔ k ∈ signalKeys)
    (hget : ∀ k ∈ signalKeys, get value k = get (a.items schema) k)
    (hschema : equalsOne schema = true) :
    (Json.object value).sortKeys = .object (a.canonical schema) := by
  have hfst : (sortMembers value).map Prod.fst = value.map Prod.fst := by
    rw [sortMembers_eq, List.map_map]
    rfl
  rw [sortKeys, sortItems_eq signalKeys_sorted (by rwa [hfst]) (by rwa [hfst])]
  refine congrArg _ (List.map_congr_left fun k hk => Prod.ext rfl ?_)
  obtain ⟨⟨l, v⟩, hmem, rfl⟩ := List.mem_map.1 ((hkeys k).2 hk)
  have hsorted : (l, v.sortKeys) ∈ sortMembers value := by
    rw [sortMembers_eq]
    exact List.mem_map.2 ⟨_, hmem, rfl⟩
  calc get (sortMembers value) l = v.sortKeys := get_of_mem (by rwa [hfst]) hsorted
    _ = (get value l).sortKeys := by rw [get_of_mem hnodup hmem]
    _ = get (a.items schema) l := by rw [hget _ hk, sortKeys_get hschema _ hk]

/-- An object is finite if all of its members are. -/
theorem finiteMembers_eq (value : List (Text × Json)) :
    finiteMembers value = value.all fun item => item.2.finite := by
  induction value with
  | nil => rfl
  | cons item value ih => rw [finiteMembers, ih]; rfl

/-- The members are finite. -/
theorem finite_get (hschema : equalsOne schema = true) :
    ∀ k ∈ signalKeys, (get (a.items schema) k).finite = true := by
  have hone : schema.finite = true := by
    rcases equalsOne_eq_true.1 hschema with rfl | rfl <;> rfl
  have hreasons : (Json.array (a.reasonCodes.map .str)).finite = true := by
    rw [finite, finiteElements_strings]
  simp only [signalKeys, List.forall_mem_cons]
  exact ⟨rfl, rfl, rfl, rfl, rfl, rfl, rfl, hreasons, hone, rfl, rfl, rfl,
    fun _ h => absurd h List.not_mem_nil⟩

/-- An object with these members is written as the canonical one. -/
theorem dumps_object (hnodup : (value.map Prod.fst).Nodup)
    (hkeys : ∀ k, k ∈ value.map Prod.fst ↔ k ∈ signalKeys)
    (hget : ∀ k ∈ signalKeys, get value k = get (a.items schema) k)
    (hschema : equalsOne schema = true) :
    (Json.object value).dumps = some (Json.object (a.canonical schema)).print := by
  have hfinite : (Json.object value).finite = true := by
    rw [finite, finiteMembers_eq, List.all_eq_true]
    rintro ⟨k, v⟩ hmem
    have hk := (hkeys k).1 (List.mem_map.2 ⟨_, hmem, rfl⟩)
    rw [← get_of_mem hnodup hmem, hget k hk]
    exact finite_get hschema k hk
  rw [dumps, if_pos hfinite, sortKeys_object hnodup hkeys hget hschema]

/-- So are the members in their own order. -/
theorem dumps_items (hschema : equalsOne schema = true) :
    (Json.object (a.items schema)).dumps = some (Json.object (a.canonical schema)).print := by
  have hfst : (a.items schema).map Prod.fst = [text "schema", text "boot_id_sha256",
      text "producer_epoch", text "sequence", text "observed_monotonic_ns", text "source_generation",
      text "source_observed_monotonic_ns", text "observation_id", text "policy_sha256",
      text "pressure", text "clear_eligible", text "reason_codes"] := rfl
  have hperm : ((a.items schema).map Prod.fst).Perm signalKeys := by
    rw [hfst]
    decide +kernel
  exact dumps_object (hperm.nodup_iff.2 signalKeys_nodup) (fun _ => hperm.mem_iff) (fun _ _ => rfl)
    hschema

/-- So is the canonical object itself. -/
theorem dumps_canonical (hschema : equalsOne schema = true) :
    (Json.object (a.canonical schema)).dumps = some (Json.object (a.canonical schema)).print := by
  refine dumps_object ?_ (fun k => ?_) (fun _ hk => get_canonical hk) hschema
  · rw [map_fst_canonical]
    exact signalKeys_nodup
  · rw [map_fst_canonical]

/-! ## Bytes -/

/-- A hexadecimal text is plain. -/
theorem plain_of_isHex {n : ℕ} {s : Text} (hs : isHex n s = true) : PlainText s := by
  simp only [isHex, decide_eq_true_eq, List.all_eq_true, isHexChar] at hs
  intro c hc
  have hhex := hs.2 c hc
  omega

/-- So are the reasons. -/
theorem plain_of_reasons {reasons : List Text} (h : ∀ r ∈ reasons, r ∈ signalReasons) :
    PlainElements (reasons.map .str) := by
  have hknown : ∀ r ∈ signalReasons, ∀ c ∈ r, 32 ≤ c ∧ c ≤ 126 ∧ c ≠ 34 ∧ c ≠ 92 := by decide +kernel
  induction reasons with
  | nil => trivial
  | cons r reasons ih =>
    obtain ⟨hr, hreasons⟩ := List.forall_mem_cons.1 h
    exact ⟨hknown r hr, ih hreasons⟩

/-- So is the canonical object. -/
theorem plain_canonical (hvalid : a.Valid) (hschema : equalsOne schema = true) :
    (Json.object (a.canonical schema)).Plain := by
  have hkeys : ∀ k ∈ signalKeys, PlainText k := by
    have : ∀ k ∈ signalKeys, ∀ c ∈ k, 32 ≤ c ∧ c ≤ 126 ∧ c ≠ 34 ∧ c ≠ 92 := by decide +kernel
    exact this
  have hone : schema.Plain := by
    rcases equalsOne_eq_true.1 hschema with rfl | rfl
    · trivial
    · rfl
  have hvalues : ∀ k ∈ signalKeys, (get (a.items schema) k).Plain := by
    simp only [signalKeys, List.forall_mem_cons]
    exact ⟨plain_of_isHex hvalid.boot, trivial, plain_of_isHex hvalid.observation, trivial,
      plain_of_isHex hvalid.policy, trivial, plain_of_isHex hvalid.epoch,
      plain_of_reasons hvalid.reasons.2.2, hone, trivial, trivial, trivial,
      fun _ h => absurd h List.not_mem_nil⟩
  have hmembers : ∀ keys : List Text, (∀ k ∈ keys, k ∈ signalKeys) →
      PlainMembers (keys.map fun k => (k, get (a.items schema) k)) := by
    intro keys
    induction keys with
    | nil => exact fun _ => trivial
    | cons k keys ih =>
      intro hmem
      obtain ⟨hk, hmem⟩ := List.forall_mem_cons.1 hmem
      exact ⟨hkeys k hk, hvalues k hk, ih hmem⟩
  refine ⟨?_, hmembers signalKeys fun _ h => h⟩
  rw [map_fst_canonical]
  exact signalKeys_nodup

/-- The bytes of ASCII are its code points. -/
theorem toNat_asciiBytes {t : Text} (ht : ∀ c ∈ t, c ≤ 126) :
    (asciiBytes t).map UInt8.toNat = t := by
  rw [asciiBytes, List.map_map]
  refine (List.map_congr_left fun c hc => ?_).trans (List.map_id t)
  have hle := ht c hc
  rw [Function.comp_apply, UInt8.toNat_ofNat', id, Nat.mod_eq_of_lt (by omega)]

/-- They are below 128. -/
theorem lt_of_mem_asciiBytes {t : Text} (ht : ∀ c ∈ t, c ≤ 126) : ∀ b ∈ asciiBytes t, b < 128 := by
  rw [asciiBytes, List.forall_mem_map]
  intro c hc
  have hle := ht c hc
  rw [UInt8.lt_iff_toNat_lt, UInt8.toNat_ofNat', Nat.mod_eq_of_lt (by omega)]
  exact lt_of_le_of_lt hle (by decide)

/-- A publication is never too long. -/
theorem length_bytes_le (hvalid : a.Valid) (hschema : equalsOne schema = true) :
    (a.bytes schema).length ≤ maxSignalBytes := by
  -- Each value takes at most 150 characters, each key at most 30, and there are twelve of them.
  have hint : ∀ {n : ℤ}, 1 ≤ n ∧ n ≤ maxGeneration → (Json.int n).print.length ≤ 150 := by
    rintro n ⟨hpos, hle⟩
    obtain ⟨m, rfl⟩ := Int.eq_ofNat_of_zero_le (by omega : 0 ≤ n)
    have hm : m < 10 ^ 19 := by
      have : m ≤ maxGeneration := by omega
      exact lt_of_le_of_lt this (by decide)
    exact (length_printNat_le (by decide) hm).trans (by decide)
  have hhex : ∀ {n : ℕ} {s : Text}, n ≤ 64 → isHex n s = true → (Json.str s).print.length ≤ 150 := by
    intro n s hn hs
    have hlength : s.length = n := by
      simp only [isHex, decide_eq_true_eq] at hs
      exact hs.1
    rw [print, length_printString (plain_of_isHex hs)]
    omega
  have hbool : ∀ b : Bool, (Json.bool b).print.length ≤ 150 := by decide
  have hone : schema.print.length ≤ 150 := by
    rcases equalsOne_eq_true.1 hschema with rfl | rfl <;> decide
  have hreasons : (Json.array (a.reasonCodes.map .str)).print.length ≤ 150 := by
    have hknown : ∀ r ∈ signalReasons, (Json.str r).print.length ≤ 29 := by decide +kernel
    have helements : ∀ v ∈ a.reasonCodes.map Json.str, v.print.length ≤ 29 := by
      intro v hv
      obtain ⟨r, hr, rfl⟩ := List.mem_map.1 hv
      exact hknown r (hvalid.reasons.2.2 r hr)
    have hle := length_print_array_le helements
    rw [List.length_map] at hle
    have hfour := hvalid.reasons.2.1
    omega
  have hkeys : ∀ k ∈ signalKeys, (printString k).length ≤ 30 := by decide +kernel
  have hvalues : ∀ k ∈ signalKeys, (get (a.items schema) k).print.length ≤ 150 := by
    simp only [signalKeys, List.forall_mem_cons]
    exact ⟨hhex le_rfl hvalid.boot, hbool _, hhex le_rfl hvalid.observation, hint hvalid.observed,
      hhex le_rfl hvalid.policy, hbool _, hhex (by decide) hvalid.epoch, hreasons, hone,
      hint hvalid.sequence, hint hvalid.generation, hint hvalid.source,
      fun _ h => absurd h List.not_mem_nil⟩
  have hitems : ∀ item ∈ a.canonical schema,
      (printString item.1).length + item.2.print.length ≤ 180 := by
    intro item hitem
    obtain ⟨k, hk, rfl⟩ := List.mem_map.1 hitem
    exact Nat.add_le_add (hkeys k hk) (hvalues k hk)
  have hle := length_print_object_le hitems
  have hcount : (a.canonical schema).length = 12 := by simp [canonical, signalKeys]
  rw [hcount] at hle
  rw [bytes, List.length_append, asciiBytes, List.length_map]
  exact (Nat.add_le_add_right hle 1).trans (by decide)

/-- What the writer makes of arguments. -/
theorem encodeAs_eq_ok (hschema : equalsOne schema = true) {raw : List UInt8} :
    a.encodeAs schema = .ok raw ↔ a.Valid ∧ raw = a.bytes schema := by
  simp only [encodeAs, bind_eq_ok, check_eq_ok, line, dumps_items hschema, ← bytes.eq_def]
  constructor
  · rintro ⟨_, ⟨hvalid, rfl⟩, h⟩
    rw [if_neg (not_lt.2 (length_bytes_le hvalid hschema))] at h
    exact ⟨hvalid, (Except.ok.inj h).symm⟩
  · rintro ⟨hvalid, rfl⟩
    exact ⟨_, ⟨hvalid, rfl⟩, if_neg (not_lt.2 (length_bytes_le hvalid hschema))⟩

/-- The reader finds the mapping in the bytes that it is written as. -/
theorem decode_bytes (hvalid : a.Valid) (hschema : equalsOne schema = true) :
    decode F (a.bytes schema) = .ok (a.canonical schema) := by
  have hplain := plain_canonical hvalid hschema
  have hle := le_of_mem_print _ hplain
  obtain ⟨u, hu⟩ := exists_print_object (a.canonical schema)
  have hlength := length_bytes_le hvalid hschema
  have hpos : 1 ≤ (a.bytes schema).length := by simp [bytes]
  have hend : [newline] <:+ a.bytes schema := List.suffix_append _ _
  -- The mapping ends with a brace, so that the newline is the only one at the end.
  have hone : ¬ [newline, newline] <:+ a.bytes schema := by
    rintro ⟨w, hw⟩
    have hw' : w ++ [newline] ++ [newline] = asciiBytes u ++ [125] ++ [newline] := by
      rw [List.append_assoc, List.singleton_append, hw, bytes, hu, asciiBytes, asciiBytes,
        List.map_append]
      rfl
    have hlast := congrArg List.getLast? (List.append_cancel_right hw')
    simp [newline] at hlast
  have hascii : decodeAscii (a.bytes schema) =
      .ok ((Json.object (a.canonical schema)).print ++ [10]) := by
    have hall : (a.bytes schema).all (· < 128) = true := by
      simp only [bytes, List.all_append, Bool.and_eq_true, List.all_eq_true, decide_eq_true_eq]
      exact ⟨lt_of_mem_asciiBytes hle, List.forall_mem_singleton.2 (by decide)⟩
    rw [decodeAscii, if_pos hall, bytes, List.map_append, toNat_asciiBytes hle]
    rfl
  have hloads : loads F ((Json.object (a.canonical schema)).print ++ [10]) =
      some (.object (a.canonical schema)) := loads_print hplain (by decide)
  have hkeys : requireKeys (some (.object (a.canonical schema))) = .ok (a.canonical schema) := by
    rw [requireKeys, if_pos]
    rw [map_fst_canonical]
    exact ⟨fun _ h => h, fun _ h => h⟩
  -- The reader writes the mapping again and compares the bytes.
  have hcanonical : requireCanonical (a.bytes schema) (a.canonical schema) =
      .ok (a.canonical schema) := by
    rw [requireCanonical, dumps_canonical hschema]
    exact if_neg (not_not.2 rfl)
  rw [decode, if_neg (by omega), if_neg (not_or.2 ⟨not_not.2 hend, hone⟩), bind_eq_ok]
  refine ⟨_, hascii, bind_eq_ok.2 ⟨_, ?_, hcanonical⟩⟩
  rw [hloads, hkeys]

/-- Bytes are accepted only if they are what the mapping in them is written as. -/
theorem decode_eq_ok {raw : List UInt8} (h : decode F raw = .ok value) :
    (value.map Prod.fst).Nodup ∧ (∀ k, k ∈ value.map Prod.fst ↔ k ∈ signalKeys) ∧
      ∃ t, (Json.object value).dumps = some t ∧ raw = asciiBytes t ++ [newline] := by
  rw [decode] at h
  split_ifs at h with hsize hend
  obtain ⟨t, _, h⟩ := bind_eq_ok.1 h
  obtain ⟨items, hkeys, hcanonical⟩ := bind_eq_ok.1 h
  rw [requireCanonical] at hcanonical
  split at hcanonical
  · cases hcanonical
  · next t' hdumps =>
    split_ifs at hcanonical with hraw
    obtain rfl := Except.ok.inj hcanonical
    rw [requireKeys.eq_def] at hkeys
    split at hkeys
    · cases hkeys
    · next items' hload =>
      split_ifs at hkeys with hmem
      obtain rfl := Except.ok.inj hkeys
      exact ⟨nodup_of_loads hload rfl, fun k => ⟨hmem.1 k, hmem.2 k⟩, t', hdumps,
        (not_not.1 hraw).symm⟩
    · cases hkeys

section

variable {nowNs : ℤ} {bootHash : Text} {raw : List UInt8}

/-- A publication that is fresh and of this boot is accepted. -/
theorem parse_bytes (hvalid : a.Valid) (hschema : equalsOne schema = true)
    (hboot : a.bootIdSha256 = bootHash) (hfresh : a.Fresh nowNs) :
    parse F sha256 (a.bytes schema) nowNs bootHash = .ok (a.parsed sha256 nowNs) := by
  refine bind_eq_ok.2 ⟨_, decode_bytes hvalid hschema, validateValue_eq_ok.2 ?_⟩
  exact ⟨by rwa [get_canonical_schema], a, in_canonical, hvalid, hboot, hfresh, rfl⟩

/-- Only publications are accepted, up to the way their schema is written. -/
theorem exists_of_parse {p : ParsedSignal} (h : parse F sha256 raw nowNs bootHash = .ok p) :
    ∃ (a : PublicationArguments) (schema : Json), equalsOne schema = true ∧ a.Valid ∧
      raw = a.bytes schema ∧ a.bootIdSha256 = bootHash ∧ a.Fresh nowNs ∧ p = a.parsed sha256 nowNs := by
  obtain ⟨value, hdecode, hvalidate⟩ := bind_eq_ok.1 h
  obtain ⟨hnodup, hkeys, t, hdumps, hraw⟩ := decode_eq_ok hdecode
  obtain ⟨hschema, a, hin, hvalid, hboot, hfresh, rfl⟩ := validateValue_eq_ok.1 hvalidate
  refine ⟨a, _, hschema, hvalid, ?_, hboot, hfresh, rfl⟩
  rw [dumps_object hnodup hkeys (hin.get_eq rfl) hschema] at hdumps
  rw [hraw, ← Option.some.inj hdumps]
  rfl

/-- The bytes say how the schema is written. -/
theorem schema_eq_of_bytes_eq {b : PublicationArguments} {schema' : Json} (F : FloatReader)
    (hvalid : a.Valid) (hschema : equalsOne schema = true) (hvalid' : b.Valid)
    (hschema' : equalsOne schema' = true) (heq : a.bytes schema = b.bytes schema') :
    schema = schema' := by
  have hdecode := decode_bytes (F := F) hvalid hschema
  rw [heq, decode_bytes hvalid' hschema'] at hdecode
  calc schema = get (a.canonical schema) (text "schema") := get_canonical_schema.symm
    _ = schema' := by rw [← Except.ok.inj hdecode, get_canonical_schema]

end

end PublicationArguments

open PublicationArguments

/-! ## Writer and reader -/

/-- The reader accepts what the writer makes of fresh arguments and nothing else, and finds
    their state in it, exactly if the schema is not written as a float. -/
theorem codec_exact_iff (F : FloatReader) (sha256 : List UInt8 → String) (raw : List UInt8)
    (nowNs : ℤ) (bootHash : Text) :
    (((∃ p, parse F sha256 raw nowNs bootHash = .ok p) ↔
        ∃ a : PublicationArguments, encodePriorityPublication a = .ok raw ∧
          a.bootIdSha256 = bootHash ∧ a.Fresh nowNs) ∧
      ∀ (a : PublicationArguments) p, encodePriorityPublication a = .ok raw →
        parse F sha256 raw nowNs bootHash = .ok p → p.state = a.state) ↔
    ¬ ∃ a : PublicationArguments, a.encodeAs (.float (some (text "1.0"))) = .ok raw ∧
      a.bootIdSha256 = bootHash ∧ a.Fresh nowNs := by
  have hint : equalsOne (.int 1) = true := rfl
  have hfloat : equalsOne (.float (some (text "1.0"))) = true := by simp [equalsOne]
  simp only [encodePriorityPublication, encodeAs_eq_ok hint, encodeAs_eq_ok hfloat]
  constructor
  · -- The float schema is accepted, and no writer makes these bytes.
    rintro ⟨⟨haccept, _⟩, _⟩ ⟨b, ⟨hvalid', rfl⟩, hboot, hfresh⟩
    obtain ⟨a, ⟨hvalid, heq⟩, _, _⟩ := haccept ⟨_, parse_bytes hvalid' hfloat hboot hfresh⟩
    have hschema := schema_eq_of_bytes_eq F hvalid hint hvalid' hfloat heq.symm
    cases hschema
  · -- What the reader accepts has an integer or a float as its schema.
    intro hno
    refine ⟨⟨?_, ?_⟩, ?_⟩
    · rintro ⟨p, hparse⟩
      obtain ⟨a, schema, hschema, hvalid, rfl, hboot, hfresh, _⟩ := exists_of_parse hparse
      rcases equalsOne_eq_true.1 hschema with rfl | rfl
      · exact ⟨a, ⟨hvalid, rfl⟩, hboot, hfresh⟩
      · exact absurd ⟨a, ⟨hvalid, rfl⟩, hboot, hfresh⟩ hno
    · rintro ⟨a, ⟨hvalid, rfl⟩, hboot, hfresh⟩
      exact ⟨_, parse_bytes hvalid hint hboot hfresh⟩
    · rintro a p ⟨hvalid, rfl⟩ hparse
      obtain ⟨value, hdecode, hvalidate⟩ := bind_eq_ok.1 hparse
      obtain rfl := Except.ok.inj ((decode_bytes hvalid hint).symm.trans hdecode)
      obtain ⟨_, b, hin, _, _, _, rfl⟩ := validateValue_eq_ok.1 hvalidate
      have hpressure : a.pressure = b.pressure :=
        Json.bool.inj (in_canonical.pressure.symm.trans hin.pressure)
      have hclear : a.clearEligible = b.clearEligible :=
        Json.bool.inj (in_canonical.clearEligible.symm.trans hin.clearEligible)
      simp only [parsed, state, hpressure, hclear]

/-- A clear publication of the boot `0…0`. -/
def clearArguments : PublicationArguments where
  bootIdSha256 := List.replicate 64 48
  producerEpoch := List.replicate 32 48
  sequence := 1
  observedMonotonicNs := 1
  sourceGeneration := 1
  sourceObservedMonotonicNs := 1
  observationId := List.replicate 64 48
  policySha256 := List.replicate 64 48
  pressure := false
  clearEligible := true
  reasonCodes := []

/-- The arguments of the example are valid. -/
theorem valid_clearArguments : clearArguments.Valid := by
  constructor <;> first | decide | exact ⟨rfl, by decide, by decide⟩

/-- The schema `1.0` is accepted, and the writer does not write it. -/
theorem float_schema_accepted : ¬ ∀ (F : FloatReader) (sha256 : List UInt8 → String)
    (raw : List UInt8) (nowNs : ℤ) (bootHash : Text),
    (∃ p, parse F sha256 raw nowNs bootHash = .ok p) →
      ∃ a : PublicationArguments, encodePriorityPublication a = .ok raw := by
  intro h
  let F : FloatReader := ⟨some, rfl⟩
  have hint : equalsOne (.int 1) = true := rfl
  have hfloat : equalsOne (.float (some (text "1.0"))) = true := by simp [equalsOne]
  have hfresh : clearArguments.Fresh 1 := by
    refine ⟨?_, ?_, ?_⟩ <;> decide
  obtain ⟨a, ha⟩ := h F (fun _ => "") (clearArguments.bytes (.float (some (text "1.0")))) 1
    (List.replicate 64 48) ⟨_, parse_bytes valid_clearArguments hfloat rfl hfresh⟩
  obtain ⟨hvalid, heq⟩ := (encodeAs_eq_ok hint).1 ha
  cases schema_eq_of_bytes_eq F hvalid hint valid_clearArguments hfloat heq.symm

end Subgen

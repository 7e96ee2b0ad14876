import Subgen.Lib.JsonRoundTrip
import Subgen.Pressure.Controller

/-!
# The bytes of the priority signal

The producer writes a publication as one line of canonical JSON
(`encodePriorityPublication`), and the reader checks the bytes it finds (`decode`) and then
the values in them (`validateValue`). Both sides check the fields of a publication for
themselves; the checks are written once here and used by both, in the order of each side.

A line is canonical if it is what the writer would have made of its own value, with its keys sorted
and nothing between them. The reader asks for that (`requireCanonical`), for exactly the known keys
(`requireKeys`), and for a schema that equals one. Then come the fields: the hash of the boot, the
times against the clock of the reader, and what pressure, the reasons and the eligibility to clear
have to do with each other (`requireState`).

The hash of some bytes (`sha256`) is a parameter. The arguments of the writer are a structure without
a proof (`PublicationArguments`), because the writer refuses some of them, and which ones is a question.
-/

namespace Subgen

open Json

/-- `MAX_SIGNAL_BYTES`. -/
def maxSignalBytes : ℕ := 4096

/-- `HEARTBEAT_MAX_AGE_NS`. -/
def heartbeatMaxAgeNs : ℤ := 10000000000

/-- `SOURCE_MAX_AGE_NS`. -/
def sourceMaxAgeNs : ℤ := 30000000000

/-- `_REASONS`. -/
def signalReasons : List Text :=
  [text "higher_priority_busy", text "higher_priority_degraded", text "higher_priority_unavailable",
    text "policy_drift"]

/-- `_KEYS`, in their order. -/
def signalKeys : List Text :=
  [text "boot_id_sha256", text "clear_eligible", text "observation_id",
    text "observed_monotonic_ns", text "policy_sha256", text "pressure", text "producer_epoch",
    text "reason_codes", text "schema", text "sequence", text "source_generation",
    text "source_observed_monotonic_ns"]

/-- The string of a text of ASCII characters. -/
def Text.toString (t : Text) : String := String.ofList (t.map Char.ofNat)

/-- `.encode("ascii")`, of a text that was written with everything else escaped. -/
def asciiBytes (t : Text) : List UInt8 := t.map UInt8.ofNat

/-- The byte that ends a publication. -/
def newline : UInt8 := 10

/-! ## Fields -/

/-- `[0-9a-f]`. -/
def isHexChar (c : ℕ) : Bool := (48 ≤ c ∧ c ≤ 57) ∨ (97 ≤ c ∧ c ≤ 102)

/-- `[0-9a-f]{n}\Z`. -/
def isHex (n : ℕ) (s : Text) : Bool := s.length = n ∧ s.all isHexChar = true

/-- A text of hexadecimal digits. -/
def requireHex (name : String) (n : ℕ) : Json → Except Exc Text
  | .str s => if isHex n s then .ok s else .error (.valueError (name ++ " is invalid"))
  | _ => .error (.valueError (name ++ " is invalid"))

/-- `_positive_int`. -/
def positiveInt (value : Json) (name : String) : Except Exc ℤ :=
  match value with
  | .int n =>
    if 1 ≤ n ∧ n ≤ maxGeneration then .ok n
    else .error (.valueError (name ++ " is out of range"))
  | _ => .error (.valueError (name ++ " must be an integer"))

/-- The two flags are Booleans. -/
def requireFlags : Json → Json → Except Exc (Bool × Bool)
  | .bool pressure, .bool clearEligible => .ok (pressure, clearEligible)
  | _, _ => .error (.valueError "Priority state flags must be booleans")

/-- `sorted(set(items))`. -/
def sortedSet (items : List Text) : List Text := items.dedup.insertionSort (· ≤ ·)

/-- The strings of a list, if it has nothing else in it. -/
def strings : List Json → Option (List Text)
  | [] => some []
  | .str s :: items => (strings items).map (s :: ·)
  | _ => none

/-- The reasons are known, sorted and distinct. -/
def requireReasons : Json → Except Exc (List Text)
  | .array items =>
    match strings items with
    | some reasons =>
      if reasons ≠ sortedSet reasons ∨ 4 < reasons.length ∨ reasons.any (· ∉ signalReasons) = true then
        .error (.valueError "Priority reason codes are invalid")
      else
        .ok reasons
    | none => .error (.valueError "Priority reason codes are invalid")
  | _ => .error (.valueError "Priority reason codes are invalid")

/-- The state of a signal, if its flags fit its reasons. -/
def requireState (pressure clearEligible : Bool) (reasons : List Text) :
    Except Exc PriorityState :=
  if pressure then
    if clearEligible = true ∨ reasons = [] then
      .error (.valueError "Asserted priority signal is inconsistent")
    else .ok .asserted
  else if clearEligible then
    if reasons ≠ [] then .error (.valueError "Clear priority signal is inconsistent")
    else .ok .clear
  else if reasons ≠ [] then .error (.valueError "Neutral priority signal is inconsistent")
  else .ok .neutral

/-! ## Writing -/

/-- The arguments of `encode_priority_publication`. -/
structure PublicationArguments where
  bootIdSha256 : Text
  producerEpoch : Text
  sequence : ℤ
  observedMonotonicNs : ℤ
  sourceGeneration : ℤ
  sourceObservedMonotonicNs : ℤ
  observationId : Text
  policySha256 : Text
  pressure : Bool
  clearEligible : Bool
  reasonCodes : List Text

namespace PublicationArguments

/-- The checks of the arguments, and the state they make up. -/
def check (a : PublicationArguments) : Except Exc PriorityState := do
  let _ ← requireHex "boot_id_sha256" 64 (.str a.bootIdSha256)
  let _ ← requireHex "producer_epoch" 32 (.str a.producerEpoch)
  let _ ← requireHex "observation_id" 64 (.str a.observationId)
  let _ ← requireHex "policy_sha256" 64 (.str a.policySha256)
  let _ ← positiveInt (.int a.sequence) "sequence"
  let observed ← positiveInt (.int a.observedMonotonicNs) "observed_monotonic_ns"
  let _ ← positiveInt (.int a.sourceGeneration) "source_generation"
  let source ← positiveInt (.int a.sourceObservedMonotonicNs) "source_observed_monotonic_ns"
  if source > observed then
    .error (.valueError "Priority observation times are inconsistent")
  else do
    let flags ← requireFlags (.bool a.pressure) (.bool a.clearEligible)
    let reasons ← requireReasons (.array (a.reasonCodes.map .str))
    requireState flags.1 flags.2 reasons

/-- The mapping that is written, with its schema. -/
def items (a : PublicationArguments) (schema : Json) : List (Text × Json) :=
  [(text "schema", schema),
    (text "boot_id_sha256", .str a.bootIdSha256),
    (text "producer_epoch", .str a.producerEpoch),
    (text "sequence", .int a.sequence),
    (text "observed_monotonic_ns", .int a.observedMonotonicNs),
    (text "source_generation", .int a.sourceGeneration),
    (text "source_observed_monotonic_ns", .int a.sourceObservedMonotonicNs),
    (text "observation_id", .str a.observationId),
    (text "policy_sha256", .str a.policySha256),
    (text "pressure", .bool a.pressure),
    (text "clear_eligible", .bool a.clearEligible),
    (text "reason_codes", .array (a.reasonCodes.map .str))]

/-- The line of a mapping, if it is not too long. -/
def line (items : List (Text × Json)) : Except Exc (List UInt8) :=
  match (Json.object items).dumps with
  | none => .error (.valueError "Out of range float values are not JSON compliant")
  | some t =>
    if maxSignalBytes < (asciiBytes t ++ [newline]).length then
      .error (.valueError "Priority signal size is invalid")
    else
      .ok (asciiBytes t ++ [newline])

/-- The bytes of a publication whose schema is written as `schema`. -/
def encodeAs (schema : Json) (a : PublicationArguments) : Except Exc (List UInt8) := do
  let _ ← a.check
  line (a.items schema)

end PublicationArguments

/-- `encode_priority_publication`. -/
def encodePriorityPublication (a : PublicationArguments) : Except Exc (List UInt8) :=
  a.encodeAs (.int 1)

/-! ## Reading -/

/-- `raw.decode("ascii", "strict")`. -/
def decodeAscii (raw : List UInt8) : Except Exc Text :=
  if raw.all (· < 128) then .ok (raw.map UInt8.toNat)
  else .error (.valueError "'ascii' codec can't decode byte: ordinal not in range(128)")

/-- The mapping of a text, if it has the keys of a publication and no other. -/
def requireKeys : Option Json → Except Exc (List (Text × Json))
  | none => .error (.valueError "Expecting value")
  | some (.object items) =>
    if (∀ k ∈ items.map Prod.fst, k ∈ signalKeys) ∧ (∀ k ∈ signalKeys, k ∈ items.map Prod.fst) then
      .ok items
    else
      .error (.valueError "Priority signal keys are invalid")
  | some _ => .error (.valueError "Priority signal keys are invalid")

/-- The bytes have to be those that the mapping in them is written as. -/
def requireCanonical (raw : List UInt8) (items : List (Text × Json)) :
    Except Exc (List (Text × Json)) :=
  match (Json.object items).dumps with
  | none => .error (.valueError "Out of range float values are not JSON compliant")
  | some t =>
    if asciiBytes t ++ [newline] ≠ raw then
      .error (.valueError "Priority signal bytes are noncanonical")
    else
      .ok items

/-- `_decode`. -/
def decode (F : FloatReader) (raw : List UInt8) : Except Exc (List (Text × Json)) :=
  if raw.length < 1 ∨ maxSignalBytes < raw.length then
    .error (.valueError "Priority signal size is invalid")
  else if ¬ [newline] <:+ raw ∨ [newline, newline] <:+ raw then
    .error (.valueError "Priority signal must have one trailing newline")
  else do
    let t ← decodeAscii raw
    let items ← requireKeys (loads F t)
    requireCanonical raw items

/-- `value == 1`, of a value that is no boolean. The float `1.0` is equal to one, too. -/
def equalsOne : Json → Bool
  | .int n => n = 1
  | .float repr => repr = some (text "1.0")
  | _ => false

/-- What `_validate_value` returns. -/
structure ParsedSignal where
  state : PriorityState
  epoch : Text
  sequence : ℤ
  observedNs : ℤ
  sourceGeneration : ℤ
  sourceObservedNs : ℤ
  heartbeatAgeMs : ℤ
  sourceAgeMs : ℤ
  policySha256 : Text
  observationDigest : String
  reasonCodes : List Text

/-- The schema version is one. -/
def requireSchema (value : Json) : Except Exc Unit :=
  if equalsOne value then .ok () else .error (.valueError "Priority signal schema is invalid")

/-- The publication belongs to this boot. -/
def requireBoot (boot bootHash : Text) : Except Exc Unit :=
  if boot ≠ bootHash then .error (.valueError "Priority signal belongs to another host boot")
  else .ok ()

/-- The times have to be in order and not too long ago. -/
def requireTimes (sourceObserved observed now : ℤ) : Except Exc Unit :=
  if ¬ (sourceObserved ≤ observed ∧ observed ≤ now) then
    .error (.valueError "Priority observation times are inconsistent")
  else if heartbeatMaxAgeNs < now - observed ∨ sourceMaxAgeNs < now - sourceObserved then
    .error (.valueError "Priority observation is stale")
  else
    .ok ()

/-- `_validate_value`. -/
def validateValue (sha256 : List UInt8 → String) (value : List (Text × Json)) (nowNs : ℤ)
    (bootHash : Text) : Except Exc ParsedSignal := do
  requireSchema (get value (text "schema"))
  let boot ← requireHex "boot_id_sha256" 64 (get value (text "boot_id_sha256"))
  let observationId ← requireHex "observation_id" 64 (get value (text "observation_id"))
  let policy ← requireHex "policy_sha256" 64 (get value (text "policy_sha256"))
  requireBoot boot bootHash
  let epoch ← requireHex "producer_epoch" 32 (get value (text "producer_epoch"))
  let sequence ← positiveInt (get value (text "sequence")) "sequence"
  let observed ← positiveInt (get value (text "observed_monotonic_ns")) "observed_monotonic_ns"
  let generation ← positiveInt (get value (text "source_generation")) "source_generation"
  let sourceObserved ← positiveInt (get value (text "source_observed_monotonic_ns"))
    "source_observed_monotonic_ns"
  requireTimes sourceObserved observed nowNs
  let flags ← requireFlags (get value (text "pressure")) (get value (text "clear_eligible"))
  let reasons ← requireReasons (get value (text "reason_codes"))
  let state ← requireState flags.1 flags.2 reasons
  .ok {
    state := state
    epoch := epoch
    sequence := sequence
    observedNs := observed
    sourceGeneration := generation
    sourceObservedNs := sourceObserved
    heartbeatAgeMs := min 60000 ((nowNs - observed) / 1000000)
    sourceAgeMs := min 60000 ((nowNs - sourceObserved) / 1000000)
    policySha256 := policy
    observationDigest := sha256 (asciiBytes observationId)
    reasonCodes := reasons }

/-- The checks of some bytes, one after the other. -/
def parse (F : FloatReader) (sha256 : List UInt8 → String) (raw : List UInt8) (nowNs : ℤ)
    (bootHash : Text) : Except Exc ParsedSignal := do
  let value ← decode F raw
  validateValue sha256 value nowNs bootHash

end Subgen

import Subgen.Pressure.Priority
import Subgen.Signal.Codec

/-!
# Reading the signal from a file

One call of the reader takes the time, its user, a snapshot of the file and the boot of the
host, and reduces them to a publication, or to none (`SignalReading.publication`); what it
makes of publications that follow each other is `PriorityPressureReader.read`. Every way in
which a reading may fail ends in the same observation, so that the order of the checks is of
no importance beyond the time being taken first.

A run is the list of its readings, the newest first: `readerAfter past` is the reader behind
them, `observedAfter past s` what it gives for one more.
-/

namespace Subgen

open Json Procedure PublicationArguments

/-- What is known of the file and of its directory. -/
structure PrioritySignalSnapshot where
  raw : List UInt8
  parentUid : ℤ
  parentMode : ℕ
  fileUid : ℤ
  fileMode : ℕ
  parentIsDirectory : Bool
  fileIsRegular : Bool
  stableInode : Bool

/-- What one call finds. The clock is read again where it gave nothing, and a snapshot that
    could not be taken is none, as is a value that cannot be read. -/
structure SignalReading where
  clockNs : Option ℤ
  retryClockNs : Option ℤ
  uid : Option ℤ
  snapshot : Option PrioritySignalSnapshot
  bootId : Option Text

/-- A hyphen. -/
def isDash (c : ℕ) : Bool := c = 45

/-- `[1-5]`. -/
def isVersionChar (c : ℕ) : Bool := 49 ≤ c ∧ c ≤ 53

/-- `[89ab]`. -/
def isVariantChar (c : ℕ) : Bool := c = 56 ∨ c = 57 ∨ c = 97 ∨ c = 98

/-- The characters of a boot id, position by position. -/
def bootIdPattern : List (ℕ → Bool) :=
  List.replicate 8 isHexChar ++ [isDash] ++ List.replicate 4 isHexChar ++ [isDash, isVersionChar] ++
    List.replicate 3 isHexChar ++ [isDash, isVariantChar] ++ List.replicate 3 isHexChar ++ [isDash] ++
    List.replicate 12 isHexChar

/-- `_BOOT_ID.fullmatch(value)`. -/
def isBootId (value : Text) : Bool :=
  value.length = bootIdPattern.length ∧ (bootIdPattern.zip value).all (fun (p, c) => p c) = true

/-- The boot id without the newline behind it. -/
def stripNewline (raw : Text) : Text := if raw.getLast? = some 10 then raw.dropLast else raw

/-- The digits of a hash. -/
def hexdigest (sha256 : List UInt8 → String) (bytes : List UInt8) : Text := text (sha256 bytes)

/-- `canonical_boot_id_sha256`. -/
def canonicalBootIdSha256 (sha256 : List UInt8 → String) (raw : Text) : Except Exc Text :=
  if isBootId (stripNewline raw) then .ok (hexdigest sha256 (asciiBytes (stripNewline raw)))
  else .error (.valueError "Host boot ID is noncanonical")

/-- `_validate_snapshot`. -/
def validateSnapshot (snapshot : PrioritySignalSnapshot) (uid : ℤ) : Except Exc (List UInt8) :=
  if snapshot.parentIsDirectory = false ∨ snapshot.fileIsRegular = false ∨
      snapshot.stableInode = false ∨ snapshot.parentUid ≠ uid ∨ snapshot.fileUid ≠ uid ∨
      snapshot.parentMode ≠ 0o700 ∨ snapshot.fileMode ≠ 0o600 then
    .error (.valueError "Priority signal ownership or mode is unsafe")
  else
    .ok snapshot.raw

/-- Everything that has to be there for a publication. -/
def requireSome {α : Type} : Option α → Except Exc α
  | none => .error (.valueError "unavailable")
  | some a => .ok a

/-- The publication of a signal that passed the checks. -/
def ParsedSignal.publication (p : ParsedSignal) (payloadSha256 : String)
    (published : p.state = .clear ∨ p.state = .neutral ∨ p.state = .asserted)
    (generation_pos : 0 < p.sourceGeneration) : Publication where
  state := p.state
  epoch := Text.toString p.epoch
  sequence := p.sequence
  observedNs := p.observedNs
  sourceGeneration := p.sourceGeneration
  sourceObservedNs := p.sourceObservedNs
  heartbeatAgeMs := p.heartbeatAgeMs
  sourceAgeMs := p.sourceAgeMs
  policySha256 := Text.toString p.policySha256
  observationDigest := p.observationDigest
  reasonCodes := p.reasonCodes.map Text.toString
  payloadSha256 := payloadSha256
  published := published
  generation_pos := generation_pos

variable (F : FloatReader) (sha256 : List UInt8 → String)

section

variable {F sha256} {raw : List UInt8} {nowNs : ℤ} {bootHash : Text} {p : ParsedSignal}

theorem published_of_parse (h : parse F sha256 raw nowNs bootHash = .ok p) :
    p.state = .clear ∨ p.state = .neutral ∨ p.state = .asserted := by
  obtain ⟨a, _, _, _, _, _, _, rfl⟩ := exists_of_parse h
  change a.state = _ ∨ a.state = _ ∨ a.state = _
  rw [PublicationArguments.state]
  split_ifs <;> simp

theorem generation_pos_of_parse (h : parse F sha256 raw nowNs bootHash = .ok p) :
    0 < p.sourceGeneration := by
  obtain ⟨a, _, _, hvalid, _, _, _, rfl⟩ := exists_of_parse h
  exact hvalid.generation.1

end

namespace SignalReading

variable (s : SignalReading)

/-- `_current_time`. -/
def nowNs : Option ℤ := s.clockNs.filter (0 ≤ ·)

/-- The bytes of the file, if it belongs to this user and to nobody else. -/
def payload : Except Exc (List UInt8) := do
  let uid ← requireSome (s.uid.filter (0 ≤ ·))
  let snapshot ← requireSome s.snapshot
  validateSnapshot snapshot uid

/-- The publication of a reading, if there is one that passes the checks. -/
def publication : Option Publication :=
  match s.nowNs, s.payload, requireSome s.bootId >>= canonicalBootIdSha256 sha256 with
  | some now, .ok raw, .ok bootHash =>
    match h : parse F sha256 raw now bootHash with
    | .ok p =>
      some (p.publication (sha256 raw) (published_of_parse h) (generation_pos_of_parse h))
    | .error _ => none
  | _, _, _ => none

/-- What the rest of the reader sees of it. -/
def toReading : Reading :=
  ⟨s.nowNs, s.retryClockNs.filter (0 ≤ ·), s.publication F sha256⟩

end SignalReading

/-! ## Runs -/

/-- The reader behind some readings, the newest first. -/
def readerAfter : List SignalReading → PriorityPressureReader
  | [] => .new
  | s :: past => ((readerAfter past).read (s.toReading F sha256)).2

/-- What it gives for one more. -/
def observedAfter (past : List SignalReading) (s : SignalReading) : PriorityObservation :=
  ((readerAfter F sha256 past).read (s.toReading F sha256)).1

end Subgen

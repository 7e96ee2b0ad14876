import Subgen.Failures.Events
import Subgen.Lib.JsonRoundTrip
import Subgen.Lib.Lines

/-!
# The way of an event to the failure monitor

`emit_subgen_event` logs a line, and the handler of the log drops what `MultiplePatternsFilter` hides.

A line that is hidden never arrives. The filter looks for one of its patterns in the message; all of
them have spaces in them, and of the fields of an event only the path and the error can have
spaces, as every other text is from a fixed list or from an alphabet without them. So the question whether a
line is hidden is one about these two fields, as they are escaped in JSON.

* `validateMedia`: the evidence that `gen_subtitles_queue` passes with a `media_validation_failed`;
* `eventPayload_eq`: what an event that is sent consists of;
* `hides_eventLine`: what is hidden is hidden for the path or for the error.
-/

namespace Subgen

namespace Failures

/-! ## The validation of a file -/

/-- What one validator says of a media file. -/
inductive ValidatorOutcome
  | audioPresent
  | noAudio
  | invalidFormat
  | indeterminate
  deriving DecidableEq

/-- The text of an outcome. -/
def ValidatorOutcome.value : ValidatorOutcome → Text
  | audioPresent => text "audio_present"
  | noAudio => text "no_audio"
  | invalidFormat => text "invalid_format"
  | indeterminate => text "indeterminate"

/-- What both validators together say. -/
inductive MediaOutcome
  | validAudio
  | noAudio
  | probeIndeterminate
  | invalidMedia
  deriving DecidableEq

/-- The text of the joint outcome. -/
def MediaOutcome.value : MediaOutcome → Text
  | validAudio => text "valid_audio"
  | noAudio => text "no_audio"
  | probeIndeterminate => text "probe_indeterminate"
  | invalidMedia => text "invalid_media"

/-- `aggregate_validator_outcomes`. -/
def aggregateValidatorOutcomes (ffprobe pyav : ValidatorOutcome) : MediaOutcome :=
  if ffprobe = .invalidFormat ∧ pyav = .invalidFormat then .invalidMedia
  else if ffprobe = .audioPresent ∨ pyav = .audioPresent then .validAudio
  else if ffprobe = .noAudio ∨ pyav = .noAudio then .noAudio
  else .probeIndeterminate

/-- What `fstat` tells of the source. -/
structure SourceSnapshot where
  identity : List ℤ
  mode : ℕ
  linkCount : ℕ
  deriving DecidableEq

/-- What `validate_media` finds of a file: the three snapshots and the two validators. -/
structure Probes where
  initial : Option SourceSnapshot
  ffprobe : ValidatorOutcome
  between : Option SourceSnapshot
  pyav : ValidatorOutcome
  final : Option SourceSnapshot

/-- `MediaValidation`. -/
structure MediaValidation where
  outcome : MediaOutcome
  ffprobe : ValidatorOutcome
  pyav : ValidatorOutcome
  sourceIdentity : Option (List ℤ)
  detailCode : Text

/-- The detail of a validation that was not disturbed. -/
def MediaOutcome.detailCode : MediaOutcome → Text
  | validAudio => text "usable_audio_confirmed"
  | noAudio => text "valid_container_without_usable_audio"
  | invalidMedia => text "dual_parser_invalid"
  | probeIndeterminate => text "validator_evidence_indeterminate"

/-- `validate_media`. -/
def validateMedia (s : Probes) : MediaValidation :=
  match s.initial with
  | none => ⟨.probeIndeterminate, .indeterminate, .indeterminate, none, text "source_unavailable"⟩
  | some snapshot =>
    if s.between ≠ some snapshot then
      ⟨.probeIndeterminate, s.ffprobe, .indeterminate, some snapshot.identity,
        text "source_generation_changed"⟩
    else if s.final ≠ some snapshot then
      ⟨.probeIndeterminate, s.ffprobe, s.pyav, some snapshot.identity, text "source_generation_changed"⟩
    else
      let outcome := aggregateValidatorOutcomes s.ffprobe s.pyav
      ⟨outcome, s.ffprobe, s.pyav, some snapshot.identity, outcome.detailCode⟩

/-- The evidence with which `gen_subtitles_queue` emits `media_validation_failed`. -/
def validationDetails (v : MediaValidation) : EventDetails where
  failureClass := some v.outcome.value
  sourceIdentity := v.sourceIdentity
  validatorOutcomes := some [(text "ffprobe", v.ffprobe.value), (text "pyav", v.pyav.value)]
  validationDetail := some v.detailCode

/-! ## The log -/

/-- The patterns of `MultiplePatternsFilter`. -/
def hiddenPatterns : List Text :=
  [text "Compression ratio threshold is not met", text "Processing segment at",
   text "Log probability threshold is", text "Reset prompt", text "Attempting to release",
   text "released on ", text "Attempting to acquire", text "acquired on", text "header parsing failed",
   text "timescale not set", text "misdetection possible", text "srt was added",
   text "doesn't have any audio to transcribe", text "Calling on_"]

/-- `MultiplePatternsFilter.filter` returns `False`. -/
def Hides (message : Text) : Prop := ∃ pattern ∈ hiddenPatterns, pattern <:+: message

instance (message : Text) : Decidable (Hides message) :=
  inferInstanceAs (Decidable (∃ pattern ∈ hiddenPatterns, pattern <:+: message))

/-- The record of a message, by the time in its format. -/
def infoRecord (time message : Text) : Text := time ++ text " INFO: " ++ message

/-! ## What an event consists of -/

/-- The path of an event. -/
def eventPath (task : EventTask) : Text :=
  match task.videoFile with
  | none | some [] => task.path
  | some file => file

/-- The optional fields of an event, as they are sent. -/
structure Fields where
  error : Option Text
  failureClass : Option Text
  sourceIdentity : Option (List ℤ)
  validatorOutcomes : Option (List (Text × Text))
  validationDetail : Option Text

/-- The fields of some details: the first 500 characters of an error, and the rest as it is. -/
def fieldsOf (details : EventDetails) : Fields where
  error := details.error.bind fun message => message.map (·.take 500)
  failureClass := details.failureClass
  sourceIdentity := details.sourceIdentity
  validatorOutcomes := details.validatorOutcomes
  validationDetail := details.validationDetail

namespace Fields

variable (fields : Fields)

/-- The fields behind the error. -/
def evidence : List (Text × Json) :=
  (fields.failureClass.map fun s => (text "failure_class", Json.str s)).toList ++
  ((fields.sourceIdentity.map fun i => (text "source_identity", Json.array (i.map .int))).toList ++
  ((fields.validatorOutcomes.map fun o =>
    (text "validator_outcomes", Json.object (o.map fun (k, v) => (k, .str v)))).toList ++
  (fields.validationDetail.map fun s => (text "validation_detail", Json.str s)).toList))

/-- The members of the payload after the error. -/
def members : List (Text × Json) :=
  (fields.error.map fun s => (text "error", Json.str s)).toList ++ fields.evidence

/-- What `emit_subgen_event` has checked. -/
structure Checked (event : Text) : Prop where
  failureClass : ∀ c ∈ fields.failureClass, c ∈ allowedFailureClasses
  sourceIdentity : ∀ i ∈ fields.sourceIdentity, i.length = 5 ∧ ∀ n ∈ i, 0 ≤ n
  validatorOutcomes : ∀ o ∈ fields.validatorOutcomes, event = text "media_validation_failed" ∧
    (o.map Prod.fst).Perm [text "ffprobe", text "pyav"] ∧
      ∀ outcome ∈ o.map Prod.snd, outcome ∈ allowedValidatorOutcomes
  validationDetail : ∀ d ∈ fields.validationDetail, event = text "media_validation_failed" ∧
    d.all isDetailChar = true

end Fields

/-- The payload of an event. -/
def payloadOf (event taskId taskType path : Text) (fields : Fields) : List (Text × Json) :=
  (text "event", .str event) :: (text "task_id", .str taskId) :: (text "task_type", .str taskType) ::
    (text "path", .str path) :: fields.members

section Payload

open Procedure

variable {hexdigest : List ℕ → Text} {event : Text} {task : EventTask} {details : EventDetails}

theorem errorField_eq {error : Option (Option Text)} {l : List (Text × Json)}
    (h : errorField error = .ok l) :
    l = ((error.bind fun message => message.map (·.take 500)).map fun s => (text "error", Json.str s)).toList := by
  rcases error with _ | _ | message <;> cases h <;> rfl

theorem failureClassField_eq {failureClass : Option Text} {l : List (Text × Json)}
    (h : failureClassField failureClass = .ok l) :
    (∀ c ∈ failureClass, c ∈ allowedFailureClasses) ∧
      l = (failureClass.map fun s => (text "failure_class", Json.str s)).toList := by
  cases failureClass with
  | none =>
    cases h
    exact ⟨nofun, rfl⟩
  | some c =>
    rw [failureClassField] at h
    split_ifs at h with hallowed
    cases h
    exact ⟨fun d hd => Option.some.inj hd ▸ hallowed, rfl⟩

theorem sourceIdentityField_eq {identity : Option (List ℤ)} {l : List (Text × Json)}
    (h : sourceIdentityField identity = .ok l) :
    (∀ i ∈ identity, i.length = 5 ∧ ∀ n ∈ i, 0 ≤ n) ∧
      l = (identity.map fun i => (text "source_identity", Json.array (i.map .int))).toList := by
  cases identity with
  | none =>
    cases h
    exact ⟨nofun, rfl⟩
  | some i =>
    rw [sourceIdentityField, normalizeFileIdentity] at h
    split_ifs at h with hinvalid
    · cases h
    · rw [not_or, not_not] at hinvalid
      refine ⟨fun j hj => ?_, (Except.ok.inj h).symm⟩
      obtain rfl := Option.some.inj hj
      exact ⟨hinvalid.1, by simpa using hinvalid.2⟩

theorem validatorOutcomesField_eq {outcomes : Option (List (Text × Text))} {l : List (Text × Json)}
    (h : validatorOutcomesField event outcomes = .ok l) :
    (∀ o ∈ outcomes, event = text "media_validation_failed" ∧
      (o.map Prod.fst).Perm [text "ffprobe", text "pyav"] ∧
        ∀ outcome ∈ o.map Prod.snd, outcome ∈ allowedValidatorOutcomes) ∧
      l = (outcomes.map fun o =>
        (text "validator_outcomes", Json.object (o.map fun (k, v) => (k, .str v)))).toList := by
  cases outcomes with
  | none =>
    cases h
    exact ⟨nofun, rfl⟩
  | some o =>
    rw [validatorOutcomesField] at h
    split_ifs at h with hallowed
    cases h
    exact ⟨fun p hp => Option.some.inj hp ▸ hallowed, rfl⟩

theorem validationDetailField_eq {detail : Option Text} {l : List (Text × Json)}
    (h : validationDetailField event detail = .ok l) :
    (∀ d ∈ detail, event = text "media_validation_failed" ∧ d.all isDetailChar = true) ∧
      l = (detail.map fun s => (text "validation_detail", Json.str s)).toList := by
  cases detail with
  | none =>
    cases h
    exact ⟨nofun, rfl⟩
  | some d =>
    rw [validationDetailField] at h
    split_ifs at h with hallowed
    cases h
    exact ⟨fun e he => Option.some.inj he ▸ ⟨hallowed.1, hallowed.2.2.2⟩, rfl⟩

/-- The payload of an event that was sent. -/
theorem eventPayload_eq {payload : List (Text × Json)}
    (h : eventPayload hexdigest event task details = .ok payload) :
    ∃ taskId, taskEventId hexdigest task = .ok taskId ∧ (fieldsOf details).Checked event ∧
      payload = payloadOf event taskId task.type (eventPath task) (fieldsOf details) := by
  simp only [eventPayload, bind_eq_ok] at h
  obtain ⟨taskId, htaskId, error, herror, failureClass, hclass, identity, hidentity, outcomes, houtcomes,
    detail, hdetail, h⟩ := h
  obtain ⟨hclasses, rfl⟩ := failureClassField_eq hclass
  obtain ⟨hidentities, rfl⟩ := sourceIdentityField_eq hidentity
  obtain ⟨hallowed, rfl⟩ := validatorOutcomesField_eq houtcomes
  obtain ⟨hdetails, rfl⟩ := validationDetailField_eq hdetail
  obtain rfl := errorField_eq herror
  refine ⟨taskId, htaskId, ⟨hclasses, hidentities, hallowed, hdetails⟩, ?_⟩
  split_ifs at h
  · cases h
  · rw [← Except.ok.inj h]
    simp only [List.append_assoc, List.cons_append, List.nil_append]
    rfl

end Payload

/-! ## What is hidden -/

theorem not_space_mem_printChar {c : ℕ} (hc : c ≠ 32) : 32 ∉ Json.printChar c := by
  have hunicode : ∀ d, 32 ∉ Json.printUnicode d := by
    have hdigit : ∀ d, Json.printUnicode.digit (d % 16) ≠ 32 := by
      intro d
      rw [Json.printUnicode.digit]
      split_ifs <;> omega
    intro d
    simp [Json.printUnicode, (hdigit _).symm]
  rw [Json.printChar]
  split
  · next e he =>
    obtain ⟨l, l', hl, -⟩ := List.lookup_eq_some_iff.1 he
    have hmem : (c, e) ∈ l ++ (c, e) :: l' := List.mem_append_right _ List.mem_cons_self
    rw [← hl] at hmem
    simp only [List.mem_cons, Prod.mk.injEq, List.not_mem_nil, or_false] at hmem ⊢
    omega
  · split_ifs
    · simpa using hc.symm
    · exact hunicode c
    · simp [hunicode]

theorem not_space_mem_printString {s : Text} (hs : 32 ∉ s) : 32 ∉ Json.printString s := by
  have hchars : 32 ∉ s.flatMap Json.printChar := by
    intro hmem
    obtain ⟨c, hc, hmem⟩ := List.mem_flatMap.1 hmem
    exact not_space_mem_printChar (fun heq => hs (heq ▸ hc)) hmem
  simpa [Json.printString] using hchars

theorem not_space_mem_printInt (n : ℤ) : 32 ∉ Json.printInt n := by
  have hnat : ∀ m, 32 ∉ Json.printNat m := fun m hmem => by
    simpa [Json.isDigit] using Json.isDigit_printNat m 32 hmem
  cases n with
  | ofNat m => exact hnat m
  | negSucc m =>
    rw [Json.printInt, List.mem_cons, not_or]
    exact ⟨by decide, hnat (m + 1)⟩

theorem not_space_mem_printElements {vs : List Json} (h : ∀ v ∈ vs, 32 ∉ v.print) :
    32 ∉ Json.printElements vs := by
  induction vs with
  | nil => decide
  | cons v vs ih =>
    obtain ⟨hv, hvs⟩ := List.forall_mem_cons.1 h
    simp [Json.printElements, hv, ih hvs]

theorem not_space_mem_array {vs : List Json} (h : ∀ v ∈ vs, 32 ∉ v.print) : 32 ∉ (Json.array vs).print := by
  cases vs with
  | nil => decide
  | cons v vs =>
    obtain ⟨hv, hvs⟩ := List.forall_mem_cons.1 h
    simp [Json.print, hv, not_space_mem_printElements hvs]

theorem not_space_mem_printMembers {items : List (Text × Json)}
    (h : ∀ item ∈ items, 32 ∉ item.1 ∧ 32 ∉ item.2.print) : 32 ∉ Json.printMembers items := by
  induction items with
  | nil => decide
  | cons item items ih =>
    obtain ⟨⟨hk, hv⟩, hitems⟩ := List.forall_mem_cons.1 h
    simp [Json.printMembers, not_space_mem_printString hk, hv, ih hitems]

theorem not_space_mem_object {items : List (Text × Json)}
    (h : ∀ item ∈ items, 32 ∉ item.1 ∧ 32 ∉ item.2.print) : 32 ∉ (Json.object items).print := by
  rcases items with _ | ⟨⟨k, v⟩, items⟩
  · decide
  · obtain ⟨⟨hk, hv⟩, hitems⟩ := List.forall_mem_cons.1 h
    simp [Json.print, not_space_mem_printString hk, hv, not_space_mem_printMembers hitems]

theorem not_space_mem_allowed {s : Text} (hs : s ∈ allowedFailureClasses ++ allowedValidatorOutcomes) :
    32 ∉ s := by
  revert s
  decide

theorem not_space_mem_of_isDetailChar {s : Text} (hs : s.all isDetailChar = true) : 32 ∉ s := fun hmem =>
  absurd (List.all_eq_true.1 hs 32 hmem) (by decide)

/-- The evidence of an event holds no space. -/
theorem Fields.Checked.not_space_mem_evidence {event : Text} {fields : Fields} (h : fields.Checked event) :
    32 ∉ Json.printMembers fields.evidence := by
  refine not_space_mem_printMembers fun item hitem => ?_
  simp only [Fields.evidence, List.mem_append, Option.mem_toList, Option.map_eq_some_iff] at hitem
  rcases hitem with ⟨c, hc, rfl⟩ | ⟨i, hi, rfl⟩ | ⟨o, ho, rfl⟩ | ⟨d, hd, rfl⟩
  · exact ⟨(by decide : 32 ∉ text "failure_class"), not_space_mem_printString
      (not_space_mem_allowed (List.mem_append_left _ (h.failureClass c hc)))⟩
  · refine ⟨(by decide : 32 ∉ text "source_identity"), not_space_mem_array fun v hv => ?_⟩
    obtain ⟨n, -, rfl⟩ := List.mem_map.1 hv
    exact not_space_mem_printInt n
  · obtain ⟨-, hkeys, hvalues⟩ := h.validatorOutcomes o ho
    refine ⟨(by decide : 32 ∉ text "validator_outcomes"), not_space_mem_object fun item hitem => ?_⟩
    obtain ⟨⟨k, v⟩, hmem, rfl⟩ := List.mem_map.1 hitem
    have hk : k ∈ [text "ffprobe", text "pyav"] := hkeys.mem_iff.1 (List.mem_map_of_mem hmem)
    have hv : v ∈ allowedValidatorOutcomes := hvalues v (List.mem_map_of_mem hmem)
    have hkeys' : ∀ k ∈ [text "ffprobe", text "pyav"], 32 ∉ k := by decide
    exact ⟨hkeys' k hk, not_space_mem_printString (not_space_mem_allowed (List.mem_append_right _ hv))⟩
  · exact ⟨(by decide : 32 ∉ text "validation_detail"),
      not_space_mem_printString (not_space_mem_of_isDetailChar (h.validationDetail d hd).2)⟩

/-- No pattern holds a quote, so that one is found in front of it or behind it. -/
theorem hides_quote {a b : Text} : Hides (a ++ 34 :: b) ↔ Hides a ∨ Hides b := by
  have hquote : ∀ pattern ∈ hiddenPatterns, 34 ∉ pattern := by decide
  simp only [Hides, ← exists_or, ← and_or_left]
  exact exists_congr fun pattern => and_congr_right fun hpattern => Lines.infix_append_cons (hquote pattern hpattern)

/-- Every pattern holds a space. -/
theorem not_hides {t : Text} (ht : 32 ∉ t) : ¬ Hides t := by
  have hspace : ∀ pattern ∈ hiddenPatterns, 32 ∈ pattern := by decide
  rintro ⟨pattern, hpattern, hfound⟩
  exact ht (hfound.subset (hspace pattern hpattern))

/-- The escaped characters of a string. -/
def escaped (s : Text) : Text := s.flatMap Json.printChar

/-- What is hidden is hidden for the path or for the error. -/
theorem hides_eventLine {event taskId taskType path : Text} {fields : Fields} (h : fields.Checked event)
    (hevent : 32 ∉ event) (htaskId : 32 ∉ taskId) (htaskType : 32 ∉ taskType) :
    Hides (eventLine (payloadOf event taskId taskType path fields)) ↔
      Hides (escaped path) ∨ ∃ message ∈ fields.error, Hides (escaped message) := by
  have hmembers : Hides (Json.printMembers fields.members) ↔
      ∃ message ∈ fields.error, Hides (escaped message) := by
    rw [Fields.members]
    cases fields.error with
    | none => simpa using not_hides h.not_space_mem_evidence
    | some message =>
      have hprint : Json.printMembers ((text "error", .str message) :: fields.evidence) =
          (44 :: (Json.printString (text "error") ++ [58])) ++ 34 ::
            (escaped message ++ 34 :: Json.printMembers fields.evidence) := by
        simp [Json.printMembers, Json.print, Json.printString, escaped]
      have hbefore : ¬ Hides (44 :: (Json.printString (text "error") ++ [58])) := not_hides (by decide)
      simp only [Option.map_some, Option.toList_some, List.cons_append, List.nil_append]
      rw [hprint, hides_quote, hides_quote]
      simp [hbefore, not_hides h.not_space_mem_evidence]
  -- Between the prefix of the line and the path there is no space.
  obtain ⟨before, hbefore, hline⟩ : ∃ before, 32 ∉ before ∧
      eventLine (payloadOf event taskId taskType path fields) = text "SUBGEN_EVENT \x7b" ++ 34 ::
        (before ++ 34 :: (escaped path ++ 34 :: Json.printMembers fields.members)) := by
    refine ⟨escaped (text "event") ++ 34 :: 58 :: (Json.printString event ++ 44 ::
      (Json.printString (text "task_id") ++ 58 :: (Json.printString taskId ++ 44 ::
        (Json.printString (text "task_type") ++ 58 :: (Json.printString taskType ++ 44 ::
          (Json.printString (text "path") ++ [58])))))), ?_, ?_⟩
    · have hkeys : 32 ∉ escaped (text "event") ∧ 32 ∉ Json.printString (text "task_id") ∧
          32 ∉ Json.printString (text "task_type") ∧ 32 ∉ Json.printString (text "path") := by decide
      simp [hkeys, not_space_mem_printString, hevent, htaskId, htaskType]
    · have hstart : text "SUBGEN_EVENT \x7b" = text "SUBGEN_EVENT " ++ [123] := by decide
      rw [hstart]
      simp [eventLine, payloadOf, Json.print, Json.printMembers, Json.printString, escaped]
  have hfirst : ¬ Hides (text "SUBGEN_EVENT \x7b") := by decide
  rw [hline, hides_quote, hides_quote, hides_quote, hmembers]
  simp [hfirst, not_hides hbefore]

end Failures

end Subgen

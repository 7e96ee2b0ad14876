import Subgen.Failures.Delivery

/-!
# The arrival of an event

An event leaves the program as a line of the log and arrives at the failure monitor as a record. In between
stand the filter that hides some records, the time that docker puts in front, the bound on the length of a
record, and the dispatch of the monitor by the name of the event. An event *arrives* if the monitor ends with
what was sent: the same path, the same task, and for a failed validation the same evidence.

The payload is printed and read back as JSON; the texts in it are bounded and need no escapes, but for the path
and the error, which may be anything. So what decides is the path (bounded, printable, canonical), the length of
the line, whether a hidden pattern is in the line, and whether the monitor handles an event of that name.

* `processStructuredEvent_infoRecord`: the failure monitor reads the payload of an event that is short
  enough, whatever is in it;
* `Texts.taskEventOf_eq`, `Texts.validationFailedOf_eq`: what it makes of the payload;
* `events_arrive`: exactly when an event arrives as it was sent.
-/

namespace Subgen

namespace Failures

/-- The digest of a task id: 64 hexadecimal digits. -/
structure HexDigest where
  hexdigest : List ℕ → Text
  length : ∀ bytes, (hexdigest bytes).length = 64
  digits : ∀ bytes, ∀ c ∈ hexdigest bytes, Json.isDigit c = true ∨ 97 ≤ c ∧ c ≤ 102

/-- A name of an event: at most 64 letters, digits and underscores. -/
def IsEventName (event : Text) : Prop := event ≠ [] ∧ event.length ≤ 64 ∧ event.all isDetailChar = true

instance (event : Text) : Decidable (IsEventName event) :=
  inferInstanceAs (Decidable (_ ∧ _ ∧ _))

/-! ## The line -/

section Line

variable {D : Decimals} {F : FloatReader} {hexdigest : List ℕ → Text} {time t : Text}

/-- A pointwise test that implies another one passes it on to the whole lists. -/
theorem all_zipWith {f g : ℕ → ℕ → Bool} (h : ∀ a b, f a b = true → g a b = true) {l l' : List ℕ}
    (hall : (List.zipWith f l l').all id = true) : (List.zipWith g l l').all id = true := by
  induction l generalizing l' with
  | nil => rfl
  | cons a l ih =>
    cases l' with
    | nil => rfl
    | cons b l' =>
      rw [List.zipWith_cons_cons, List.all_cons, Bool.and_eq_true] at hall ⊢
      exact ⟨h a b hall.1, ih hall.2⟩

/-- A pointwise test over lists of one length gives every element its partner. -/
theorem exists_of_all_zipWith {f : ℕ → ℕ → Bool} {l l' : List ℕ} (hlength : l.length = l'.length)
    (hall : (List.zipWith f l l').all id = true) {a : ℕ} (ha : a ∈ l) : ∃ b ∈ l', f a b = true := by
  induction l generalizing l' with
  | nil => cases ha
  | cons c l ih =>
    cases l' with
    | nil => cases hlength
    | cons b l' =>
      rw [List.zipWith_cons_cons, List.all_cons, Bool.and_eq_true] at hall
      rcases List.mem_cons.1 ha with rfl | ha
      · exact ⟨b, List.mem_cons_self, hall.1⟩
      · obtain ⟨d, hd, hf⟩ := ih (Nat.succ.inj hlength) hall.2 ha
        exact ⟨d, List.mem_cons_of_mem _ hd, hf⟩

/-- A time is ASCII. -/
theorem lt_of_isTimestamp (h : isTimestamp asciiDecimals time = true) : ∀ c ∈ time, c < 128 := by
  intro c hc
  simp only [isTimestamp, Bool.and_eq_true, decide_eq_true_eq] at h
  obtain ⟨p, hp, hf⟩ := exists_of_all_zipWith h.1 h.2 hc
  split_ifs at hf with hdigit
  · simp only [asciiDecimals, Json.isDigit, decide_eq_true_eq] at hf
    omega
  · have htemplate : ∀ p ∈ text "0000-00-00 00:00:00", p < 128 := by decide
    rw [of_decide_eq_true hf]
    exact htemplate p hp

/-- A time is one for every set of digits. -/
theorem isTimestamp_of_ascii (h : isTimestamp asciiDecimals time = true) : isTimestamp D time = true := by
  simp only [isTimestamp, Bool.and_eq_true] at h ⊢
  refine ⟨h.1, all_zipWith (fun c p hc => ?_) h.2⟩
  split_ifs at hc ⊢ with hp
  · have hlt : c < 128 := by
      simp only [asciiDecimals, Json.isDigit, decide_eq_true_eq] at hc
      omega
    rw [D.ascii c hlt]
    exact hc
  · exact hc

/-- The monitor takes the docker timestamp off again. -/
theorem withoutTimestamp_infoRecord (h : isTimestamp asciiDecimals time = true) :
    withoutTimestamp D (infoRecord time t) = t := by
  have hlength : time.length = 19 := by
    simp only [isTimestamp, Bool.and_eq_true, decide_eq_true_eq] at h
    exact h.1
  have htake : (infoRecord time t).take 19 = time := by
    rw [infoRecord, List.append_assoc, List.take_append_of_le_length hlength.ge, ← hlength, List.take_length]
  have hdrop : (infoRecord time t).drop 19 = text " INFO: " ++ t := by
    rw [infoRecord, List.append_assoc, ← hlength, List.drop_left]
  have hlevel : levelNames.find? (fun level => ([32] ++ level ++ text ": ").isPrefixOf
      (text " INFO: " ++ t)) = some (text "INFO") := by
    rfl
  have hlong : 22 + (text "INFO").length = 19 + (text " INFO: ").length := by decide
  rw [withoutTimestamp, htake, if_pos (isTimestamp_of_ascii h), hdrop, hlevel]
  simp only []
  rw [hlong, ← List.drop_drop, hdrop, List.drop_left]

/-- A text in braces on one line is a frame. -/
theorem frameBody_braces {w : Text} (hw : 10 ∉ w) :
    frameBody (123 :: (w ++ [125])) = some (123 :: (w ++ [125])) := by
  have hlast : (123 :: (w ++ [125])).getLast? = some 125 := by
    rw [← List.cons_append, List.getLast?_concat]
  simp [frameBody, hlast, hw]

/-- An object stands between its braces. -/
theorem frameBody_print {items : List (Text × Json)} (h : (Json.object items).Readable) :
    frameBody (Json.object items).print = some (Json.object items).print := by
  obtain ⟨u, hu⟩ := Json.exists_print_object items
  obtain ⟨v, hv⟩ : ∃ v, (Json.object items).print = 123 :: v := by
    rcases items with _ | ⟨⟨k, v⟩, items⟩ <;> exact ⟨_, rfl⟩
  rcases u with _ | ⟨c, w⟩
  · rw [hu] at hv
    simp at hv
  · obtain rfl : c = 123 := by
      rw [hu] at hv
      exact (List.cons.inj hv).1
    have hw : 10 ∉ w := fun hmem => by
      have hprintable := Json.printable_print _ h 10 (by simp [hu, hmem])
      omega
    rw [hu, List.cons_append]
    exact frameBody_braces hw

/-- The monitor reads the payload that the program printed. -/
theorem structuredEventFrame_infoRecord {items : List (Text × Json)} (h : (Json.object items).Readable)
    (htime : isTimestamp asciiDecimals time = true) :
    structuredEventFrame D (infoRecord time (eventLine items)) = some (Json.object items).print := by
  rw [structuredEventFrame, withoutTimestamp_infoRecord htime, eventLine, eventPrefix,
    if_pos (List.prefix_append _ _), List.drop_left]
  exact frameBody_print h

/-- A character of ASCII is one byte. -/
theorem flatMap_utf8Char (ht : ∀ c ∈ t, c < 128) : t.flatMap utf8Char = t := by
  induction t with
  | nil => rfl
  | cons c t ih =>
    obtain ⟨hc, ht⟩ := List.forall_mem_cons.1 ht
    rw [List.flatMap_cons, ih ht, utf8Char, if_pos (by omega)]
    rfl

/-- A record is ASCII, and 26 characters longer than its line. -/
theorem length_infoRecord {items : List (Text × Json)} (h : (Json.object items).Readable)
    (htime : isTimestamp asciiDecimals time = true) :
    ((infoRecord time (eventLine items)).flatMap utf8Char).length = 26 + (eventLine items).length := by
  have hascii : ∀ c ∈ infoRecord time (eventLine items), c < 128 := by
    have hinfo : ∀ c ∈ text " INFO: ", c < 128 := by decide
    have hevent : ∀ c ∈ text "SUBGEN_EVENT ", c < 128 := by decide
    intro c hc
    simp only [infoRecord, eventLine, List.mem_append] at hc
    rcases hc with (hc | hc) | hc | hc
    · exact lt_of_isTimestamp htime c hc
    · exact hinfo c hc
    · exact hevent c hc
    · have hprintable := Json.printable_print _ h c hc
      omega
  have hlength : time.length = 19 := by
    simp only [isTimestamp, Bool.and_eq_true, decide_eq_true_eq] at htime
    exact htime.1
  have hinfo : (text " INFO: ").length = 7 := by decide
  rw [flatMap_utf8Char hascii, infoRecord, List.length_append, List.length_append, hlength, hinfo]

/-- The payload of a record that is short enough is read. -/
theorem processStructuredEvent_infoRecord {items : List (Text × Json)} (h : (Json.object items).Readable)
    (htime : isTimestamp asciiDecimals time = true)
    (hlength : 26 + (eventLine items).length ≤ maxStructuredEventBytes) :
    processStructuredEvent D F hexdigest (infoRecord time (eventLine items)) =
      structuredOf hexdigest (Json.normMembers items) := by
  have hstart : eventPrefix <:+: infoRecord time (eventLine items) :=
    ⟨time ++ text " INFO: ", (Json.object items).print, by simp [infoRecord, eventLine, eventPrefix]⟩
  have hread : Json.readText ⟨F, false, true⟩ (Json.object items).print =
      some (.object (Json.normMembers items)) := by
    have hload := Json.readText_print (R := ⟨F, false, true⟩) (t := []) h (by simp)
    rwa [List.append_nil] at hload
  rw [processStructuredEvent, if_neg (not_not.2 hstart), length_infoRecord h htime,
    if_neg (not_lt.2 hlength), structuredEventFrame_infoRecord h htime]
  simp only [hread]

end Line

/-! ## The payload -/

/-- The keys that an event may have. -/
def eventKeys : List Text :=
  [text "event", text "task_id", text "task_type", text "path", text "error", text "failure_class",
   text "source_identity", text "validator_outcomes", text "validation_detail"]

/-- Detail characters need no escape. -/
theorem plain_of_isDetailChar {s : Text} (hs : s.all isDetailChar = true) : Json.PlainText s := by
  intro c hc
  have hchar := List.all_eq_true.1 hs c hc
  simp only [isDetailChar, Json.isDigit, Bool.or_eq_true, Bool.and_eq_true, decide_eq_true_eq] at hchar
  omega

/-- The allowed classes and outcomes need no escape. -/
theorem plain_of_allowed {s : Text} (hs : s ∈ allowedFailureClasses ++ allowedValidatorOutcomes) :
    Json.PlainText s :=
  plain_of_isDetailChar (by revert s; decide)

/-- The keys of the payload need no escape. -/
theorem plain_of_mem_eventKeys {k : Text} (hk : k ∈ eventKeys) : Json.PlainText k :=
  plain_of_isDetailChar (by revert k; decide)

/-- Numbers need no escape. -/
theorem plainElements_int (i : List ℤ) : Json.PlainElements (i.map .int) := by
  induction i with
  | nil => trivial
  | cons n i ih => exact ⟨trivial, ih⟩

/-- The validator outcomes need no escape. -/
theorem plain_outcomes {o : List (Text × Text)} (hkeys : (o.map Prod.fst).Perm [text "ffprobe", text "pyav"])
    (hvalues : ∀ outcome ∈ o.map Prod.snd, outcome ∈ allowedValidatorOutcomes) :
    (Json.object (o.map fun (k, v) => (k, .str v))).Plain := by
  have hplain : ∀ k ∈ [text "ffprobe", text "pyav"], k.all isDetailChar = true := by decide
  have hnodup : [text "ffprobe", text "pyav"].Nodup := by decide
  refine ⟨?_, ?_⟩
  · rw [List.map_map]
    exact hkeys.nodup_iff.2 hnodup
  · have hkeys' : ∀ k ∈ o.map Prod.fst, k ∈ [text "ffprobe", text "pyav"] := fun k => hkeys.mem_iff.1
    clear hkeys
    induction o with
    | nil => trivial
    | cons item o ih =>
      rw [List.map_cons, List.forall_mem_cons] at hvalues hkeys'
      exact ⟨plain_of_isDetailChar (hplain _ hkeys'.1),
        plain_of_allowed (List.mem_append_right _ hvalues.1), ih hvalues.2 hkeys'.2⟩

/-- What a payload is made of: everything but the path and the error is written without escapes. -/
theorem mem_payloadOf {event taskId taskType path : Text} {fields : Fields} (hevent : IsEventName event)
    (htaskId : taskId.all isDetailChar = true) (htaskType : taskType.all isDetailChar = true)
    (h : fields.Checked event) {item : Text × Json} (hitem : item ∈ payloadOf event taskId taskType path fields) :
    item.1 ∈ eventKeys ∧ (item.2.Plain ∨ item.2 = .str path ∨ ∃ message ∈ fields.error, item.2 = .str message) := by
  simp only [payloadOf, Fields.members, Fields.evidence, List.mem_cons, List.mem_append, Option.mem_toList,
    Option.map_eq_some_iff] at hitem
  rcases hitem with rfl | rfl | rfl | rfl | ⟨m, hm, rfl⟩ | ⟨c, hc, rfl⟩ | ⟨i, hi, rfl⟩ | ⟨o, ho, rfl⟩ |
    ⟨d, hd, rfl⟩
  · exact ⟨by simp [eventKeys], .inl (plain_of_isDetailChar hevent.2.2)⟩
  · exact ⟨by simp [eventKeys], .inl (plain_of_isDetailChar htaskId)⟩
  · exact ⟨by simp [eventKeys], .inl (plain_of_isDetailChar htaskType)⟩
  · exact ⟨by simp [eventKeys], .inr (.inl rfl)⟩
  · exact ⟨by simp [eventKeys], .inr (.inr ⟨m, hm, rfl⟩)⟩
  · exact ⟨by simp [eventKeys], .inl (plain_of_allowed (List.mem_append_left _ (h.failureClass c hc)))⟩
  · exact ⟨by simp [eventKeys], .inl (plainElements_int i)⟩
  · obtain ⟨-, hkeys, hvalues⟩ := h.validatorOutcomes o ho
    exact ⟨by simp [eventKeys], .inl (plain_outcomes hkeys hvalues)⟩
  · exact ⟨by simp [eventKeys], .inl (plain_of_isDetailChar (h.validationDetail d hd).2)⟩

/-- An optional field gives at most its own key. -/
theorem map_fst_sublist {α : Type} (o : Option α) (k : Text) (f : α → Json) :
    ((o.map fun a => (k, f a)).toList.map Prod.fst).Sublist [k] := by
  cases o with
  | none => exact List.nil_sublist _
  | some a => exact List.Sublist.refl _

/-- No key stands twice in a payload. -/
theorem nodup_payloadOf (event taskId taskType path : Text) (fields : Fields) :
    ((payloadOf event taskId taskType path fields).map Prod.fst).Nodup := by
  have hnodup : eventKeys.Nodup := by decide
  refine List.Nodup.sublist ?_ hnodup
  rw [payloadOf, Fields.members, Fields.evidence]
  simp only [List.map_cons, List.map_append]
  refine .cons_cons _ (.cons_cons _ (.cons_cons _ (.cons_cons _ ?_)))
  exact (map_fst_sublist _ _ _).append ((map_fst_sublist _ _ _).append ((map_fst_sublist _ _ _).append
    ((map_fst_sublist _ _ _).append (map_fst_sublist _ _ _))))

/-- What is demanded of the texts of an event: the path is accepted, and JSON gives it back. -/
structure Texts (event taskId taskType path : Text) (fields : Fields) : Prop where
  name : IsEventName event
  idChars : taskId.all isDetailChar = true
  typeChars : taskType.all isDetailChar = true
  codePoints : Json.CodePoints path
  joined : Json.joinSurrogates path = path
  errorPoints : ∀ message ∈ fields.error, Json.CodePoints message
  checked : fields.Checked event

section Payloads

variable {event taskId taskType path : Text} {fields : Fields} {k : Text} {v : Json}

/-- The payload has distinct keys and texts that a reader gets back. -/
theorem Texts.readable (h : Texts event taskId taskType path fields) :
    (Json.object (payloadOf event taskId taskType path fields)).Readable := by
  have hmem := @mem_payloadOf event taskId taskType path fields h.name h.idChars h.typeChars h.checked
  refine ⟨?_, Json.readableMembers_iff.2 fun item hitem => ?_⟩
  · have hkeys : (payloadOf event taskId taskType path fields).map (fun item => Json.joinSurrogates item.1) =
        (payloadOf event taskId taskType path fields).map Prod.fst :=
      List.map_congr_left fun item hitem =>
        Json.joinSurrogates_plain (plain_of_mem_eventKeys (hmem hitem).1)
    rw [hkeys]
    exact nodup_payloadOf _ _ _ _ _
  · obtain ⟨hkey, hvalue⟩ := hmem hitem
    refine ⟨(plain_of_mem_eventKeys hkey).codePoints, ?_⟩
    rcases hvalue with hplain | hpath | ⟨message, hmessage, herror⟩
    · exact (Json.Plain.readable _ hplain).1
    · rw [hpath]
      exact h.codePoints
    · rw [herror]
      exact h.errorPoints message hmessage

/-- A member as it is read. -/
theorem Texts.get_eq (h : Texts event taskId taskType path fields)
    (hmem : (k, v) ∈ payloadOf event taskId taskType path fields) :
    Json.get (Json.normMembers (payloadOf event taskId taskType path fields)) k = v.norm := by
  have hk : k ∈ eventKeys := (mem_payloadOf h.name h.idChars h.typeChars h.checked hmem).1
  have hnodup := h.readable.1
  rw [← Json.map_fst_normMembers] at hnodup
  refine Json.get_of_mem hnodup ?_
  rw [Json.normMembers_eq_map]
  refine List.mem_map.2 ⟨_, hmem, ?_⟩
  simp only [Json.joinSurrogates_plain (plain_of_mem_eventKeys hk)]

/-- The keys are read as they are. -/
theorem Texts.keys_eq (h : Texts event taskId taskType path fields) :
    (Json.normMembers (payloadOf event taskId taskType path fields)).map Prod.fst =
      (payloadOf event taskId taskType path fields).map Prod.fst := by
  rw [Json.map_fst_normMembers]
  exact List.map_congr_left fun item hitem => Json.joinSurrogates_plain
    (plain_of_mem_eventKeys (mem_payloadOf h.name h.idChars h.typeChars h.checked hitem).1)

/-- A short nonempty text of detail characters is a bounded event text. -/
theorem boundedEventText_of_isDetailChar {s : Text} {maximum : ℕ} (hne : s ≠ []) (hlength : s.length ≤ maximum)
    (hs : s.all isDetailChar = true) : boundedEventText maximum (.str s) = some s := by
  have hcontrol : s.any isControl = false := by
    rw [List.any_eq_false]
    intro c hc hcontrol
    have hplain := plain_of_isDetailChar hs c hc
    simp only [isControl, Bool.or_eq_true, decide_eq_true_eq] at hcontrol
    omega
  rw [boundedEventText, if_neg]
  simp [hne, hlength, hcontrol]

/-- Without an identity there is no key for it. -/
theorem source_identity_not_mem (h : fields.sourceIdentity = none) :
    text "source_identity" ∉ (payloadOf event taskId taskType path fields).map Prod.fst := by
  have hkeys : text "source_identity" ∉ eventKeys.erase (text "source_identity") := by decide
  have hsub : ((payloadOf event taskId taskType path fields).map Prod.fst).Sublist
      (eventKeys.erase (text "source_identity")) := by
    have herase : eventKeys.erase (text "source_identity") =
        [text "event", text "task_id", text "task_type", text "path", text "error", text "failure_class",
          text "validator_outcomes", text "validation_detail"] := by decide
    rw [herase, payloadOf, Fields.members, Fields.evidence, h]
    simp only [List.map_cons, List.map_append]
    refine .cons_cons _ (.cons_cons _ (.cons_cons _ (.cons_cons _ ?_)))
    exact (map_fst_sublist _ _ _).append ((map_fst_sublist _ _ _).append
      ((map_fst_sublist _ _ _).append (map_fst_sublist _ _ _)))
  exact fun hmem => hkeys (hsub.subset hmem)

/-- The name of an event is read as it was sent. -/
theorem Texts.boundedEventText_event (h : Texts event taskId taskType path fields) :
    boundedEventText 64 (Json.get (Json.normMembers (payloadOf event taskId taskType path fields)) (text "event")) =
      some event := by
  rw [h.get_eq (v := .str event) (by simp [payloadOf]), Json.norm,
    Json.joinSurrogates_plain (plain_of_isDetailChar h.name.2.2)]
  exact boundedEventText_of_isDetailChar h.name.1 h.name.2.1 h.name.2.2

/-- The event of a task is read as it was sent. -/
theorem Texts.taskEventOf_eq (h : Texts event taskId taskType path fields)
    (htaskId : boundedEventText maxTaskIdChars (.str taskId) = some taskId)
    (htaskType : boundedEventText maxTaskTypeChars (.str taskType) = some taskType)
    (hpath : boundedEventText maxEventPathChars (.str path) = some path) :
    taskEventOf event (Json.normMembers (payloadOf event taskId taskType path fields)) =
      some ⟨event, taskId, taskType, path, fields.sourceIdentity,
        Json.normMembers (payloadOf event taskId taskType path fields)⟩ := by
  have hstr : ∀ k s, (k, Json.str s) ∈ payloadOf event taskId taskType path fields →
      Json.joinSurrogates s = s →
      Json.get (Json.normMembers (payloadOf event taskId taskType path fields)) k = .str s := by
    intro k s hmem hs
    rw [h.get_eq hmem, Json.norm, hs]
  have hid := hstr (text "task_id") taskId (by simp [payloadOf])
    (Json.joinSurrogates_plain (plain_of_isDetailChar h.idChars))
  have htype := hstr (text "task_type") taskType (by simp [payloadOf])
    (Json.joinSurrogates_plain (plain_of_isDetailChar h.typeChars))
  have hpath' := hstr (text "path") path (by simp [payloadOf]) h.joined
  have hkey : text "path" ∈ (Json.normMembers (payloadOf event taskId taskType path fields)).map Prod.fst := by
    rw [h.keys_eq]
    simp [payloadOf]
  rw [taskEventOf, hid, htype, hpath', if_pos hkey, htaskId, htaskType, hpath]
  simp only [Option.bind_eq_bind, Option.bind_some, h.keys_eq]
  -- A missing identity is a missing member, which reads as `null` and is not an error.
  by_cases hidentity : fields.sourceIdentity = none
  · have habsent : text "source_identity" ∉ (payloadOf event taskId taskType path fields).map Prod.fst :=
      source_identity_not_mem hidentity
    have hnull : Json.get (Json.normMembers (payloadOf event taskId taskType path fields))
        (text "source_identity") = .null := by
      rw [← h.keys_eq] at habsent
      rw [Json.get, List.lookup_eq_none_iff.2 fun item hitem => ?_]
      · rfl
      · rw [bne_iff_ne]
        exact fun heq => habsent (heq ▸ List.mem_map_of_mem hitem)
    rw [hnull, if_neg fun hand => habsent hand.1, hidentity]
    rfl
  · obtain ⟨i, hi⟩ := Option.ne_none_iff_exists'.1 hidentity
    have hget := h.get_eq (k := text "source_identity") (v := .array (i.map .int))
      (by simp [payloadOf, Fields.members, Fields.evidence, hi])
    rw [hget, (Json.Plain.readable (.array (i.map .int)) (plainElements_int i)).2,
      normalizedEventIdentity_int (h.checked.sourceIdentity i hi), if_neg (by simp), hi]

end Payloads

/-! ## The failure of a validation -/

section Validation

variable {hexdigest : List ℕ → Text} {taskId path : Text} {s : Probes}

/-- The generation of the file was the same whenever it was looked at. -/
def Probes.Unchanged (s : Probes) : Prop := s.between = s.initial ∧ s.final = s.initial

instance (s : Probes) : Decidable s.Unchanged := inferInstanceAs (Decidable (_ ∧ _))

/-- Over an unchanged source the verdict is the aggregate of the two validators. -/
theorem validateMedia_of_unchanged {snapshot : SourceSnapshot} (hinitial : s.initial = some snapshot)
    (h : s.Unchanged) :
    validateMedia s = ⟨aggregateValidatorOutcomes s.ffprobe s.pyav, s.ffprobe, s.pyav,
      some snapshot.identity, (aggregateValidatorOutcomes s.ffprobe s.pyav).detailCode⟩ := by
  obtain ⟨hbetween, hfinal⟩ := h
  rw [validateMedia, hbetween, hfinal, hinitial]
  simp

/-- A generation that has changed is neither valid nor invalid. -/
theorem validateMedia_of_changed {snapshot : SourceSnapshot} (hinitial : s.initial = some snapshot)
    (h : ¬ s.Unchanged) :
    (validateMedia s).outcome = .probeIndeterminate ∧ (validateMedia s).sourceIdentity = some snapshot.identity ∧
      (validateMedia s).detailCode = text "source_generation_changed" := by
  rw [validateMedia, hinitial]
  simp only []
  split_ifs with hbetween hfinal
  · exact ⟨rfl, rfl, rfl⟩
  · exact ⟨rfl, rfl, rfl⟩
  · exact absurd ⟨(not_not.1 hbetween).trans hinitial.symm, (not_not.1 hfinal).trans hinitial.symm⟩ h

/-- Media are invalid only when both validators say invalid format. -/
theorem eq_invalidFormat_of_aggregate {ffprobe pyav : ValidatorOutcome}
    (h : aggregateValidatorOutcomes ffprobe pyav = .invalidMedia) :
    ffprobe = .invalidFormat ∧ pyav = .invalidFormat := by
  rw [aggregateValidatorOutcomes] at h
  split_ifs at h with hboth
  exact hboth

/-- Every outcome is among the allowed texts. -/
theorem mem_allowedValidatorOutcomes (o : ValidatorOutcome) : o.value ∈ allowedValidatorOutcomes := by
  cases o <;> decide

/-- The fields of a validation of a file with an identity. -/
def validationFields (v : MediaValidation) (identity : List ℤ) : Fields :=
  ⟨none, some v.outcome.value, some identity,
    some [(text "ffprobe", v.ffprobe.value), (text "pyav", v.pyav.value)], some v.detailCode⟩

/-- What the failure monitor makes of the fields of a validation. -/
def validationFailed (path taskId : Text) (v : MediaValidation) (identity : List ℤ) : ValidationFailed :=
  ⟨path, text "transcribe", taskId, v.outcome.value, identity, v.ffprobe.value, v.pyav.value, v.detailCode⟩

/-- The failure of a validation is read as it was sent, and then its evidence is checked. -/
theorem Texts.validationFailedOf_eq {v : MediaValidation} {i : List ℤ}
    (h : Texts (text "media_validation_failed") taskId (text "transcribe") path (validationFields v i))
    (htaskId : boundedEventText maxTaskIdChars (.str taskId) = some taskId)
    (hpath : canonicalMediaEventPath (.str path) = some path)
    (hexpected : taskEventId hexdigest ⟨path, text "transcribe", none⟩ = .ok taskId)
    (hdetail : boundedEventText 64 (.str v.detailCode) = some v.detailCode) :
    validationFailedOf hexdigest (Json.normMembers (payloadOf (text "media_validation_failed") taskId
        (text "transcribe") path (validationFields v i))) =
      if v.outcome = .invalidMedia then
        if isInvalidMediaProof (validationFailed path taskId v i) then some (validationFailed path taskId v i)
        else none
      else if v.outcome = .probeIndeterminate then
        if v.detailCode = text "validator_evidence_indeterminate" then some (validationFailed path taskId v i)
        else none
      else none := by
  have hget : ∀ k w, (k, w) ∈ payloadOf (text "media_validation_failed") taskId (text "transcribe") path
      (validationFields v i) → w.Plain → Json.get (Json.normMembers (payloadOf
        (text "media_validation_failed") taskId (text "transcribe") path (validationFields v i))) k = w := by
    intro k w hmem hw
    rw [h.get_eq hmem, (Json.Plain.readable _ hw).2]
  have hclass : v.outcome.value.all isDetailChar = true := by cases v.outcome <;> decide
  -- Each field is read as it was sent.
  have houtcomes := hget (text "validator_outcomes")
    (.object ([(text "ffprobe", v.ffprobe.value), (text "pyav", v.pyav.value)].map fun (k, v) => (k, .str v)))
    (by simp [payloadOf, Fields.members, Fields.evidence, validationFields])
    (plain_outcomes (List.Perm.refl _) (by simp [mem_allowedValidatorOutcomes]))
  have hidentity := hget (text "source_identity") (.array (i.map .int))
    (by simp [payloadOf, Fields.members, Fields.evidence, validationFields]) (plainElements_int i)
  have hfailure := hget (text "failure_class") (.str v.outcome.value)
    (by simp [payloadOf, Fields.members, Fields.evidence, validationFields]) (plain_of_isDetailChar hclass)
  have hdetail' := hget (text "validation_detail") (.str v.detailCode)
    (by simp [payloadOf, Fields.members, Fields.evidence, validationFields])
    (plain_of_isDetailChar (h.checked.validationDetail _ rfl).2)
  have hid := hget (text "task_id") (.str taskId) (by simp [payloadOf]) (plain_of_isDetailChar h.idChars)
  have htype := hget (text "task_type") (.str (text "transcribe")) (by simp [payloadOf])
    (plain_of_isDetailChar h.typeChars)
  have hpath' : Json.get (Json.normMembers (payloadOf (text "media_validation_failed") taskId
      (text "transcribe") path (validationFields v i))) (text "path") = .str path := by
    rw [h.get_eq (v := .str path) (by simp [payloadOf]), Json.norm, h.joined]
  have hkeys : ((Json.normMembers (payloadOf (text "media_validation_failed") taskId (text "transcribe") path
      (validationFields v i))).map Prod.fst).isPerm validationKeys = true := by
    have hkeys : (payloadOf (text "media_validation_failed") taskId (text "transcribe") path
        (validationFields v i)).map Prod.fst = validationKeys := rfl
    rw [h.keys_eq, hkeys]
    decide
  -- The names of the outcomes are different.
  have hinvalid : v.outcome.value = text "invalid_media" ↔ v.outcome = .invalidMedia := by
    cases v.outcome <;> decide
  have hindeterminate : v.outcome.value = text "probe_indeterminate" ↔ v.outcome = .probeIndeterminate := by
    cases v.outcome <;> decide
  have hnormalized : normalizedValidatorOutcomes
      (.object ([(text "ffprobe", v.ffprobe.value), (text "pyav", v.pyav.value)].map fun (k, v) => (k, .str v))) =
      some (v.ffprobe.value, v.pyav.value) := by
    cases v.ffprobe <;> cases v.pyav <;> decide
  have hclassText : boundedEventText 64 (.str v.outcome.value) = some v.outcome.value := by
    cases v.outcome <;> decide
  have htypeText : boundedEventText maxTaskTypeChars (.str (text "transcribe")) = some (text "transcribe") := by
    decide
  rw [validationFailedOf, hkeys, hpath', htype, hid, hfailure, hidentity, houtcomes, hdetail', hpath, htypeText,
    htaskId, hclassText, normalizedEventIdentity_int (h.checked.sourceIdentity i rfl), hnormalized, hdetail]
  simp only [Option.bind_eq_bind, Option.bind_some, hexpected, Except.toOption, Bool.not_true,
    Bool.false_eq_true, if_false, ne_eq, not_true_eq_false, or_self, hinvalid, hindeterminate]
  rfl

end Validation

/-! ## The path -/

section Path

variable {path : Text} {v : Json}

/-- A canonical path is the bounded text itself. -/
theorem canonicalMediaEventPath_eq_some {p : Text} (h : canonicalMediaEventPath (.str path) = some p) :
    p = path ∧ boundedEventText maxEventPathChars (.str path) = some path ∧ 0 ∉ path ∧
      text "/media/" <+: path ∧ PosixPath.dotdot ∉ PosixPath.parts path ∧ PosixPath.Canonical path := by
  rw [canonicalMediaEventPath, Option.bind_eq_bind, Option.bind_eq_some_iff] at h
  obtain ⟨q, hq, h⟩ := h
  obtain ⟨rfl, hcontrol⟩ : q = path ∧ path.any isControl = false := by
    rw [boundedEventText] at hq
    split_ifs at hq with hbad
    rw [not_or, not_or, Bool.not_eq_true] at hbad
    exact ⟨(Option.some.inj hq).symm, hbad.2.2⟩
  split_ifs at h with hcanonical
  refine ⟨(Option.some.inj h).symm, hq, fun hzero => ?_, hcanonical⟩
  exact absurd (List.any_eq_false.1 hcontrol 0 hzero) (by decide)

/-- A path that is accepted has a place beneath the media root. -/
theorem convertContainerPathToHostPath_isSome {p : Text} (h : canonicalMediaEventPath (.str path) = some p)
    (mediaRoot : List Text) : (convertContainerPathToHostPath mediaRoot path).isSome = true := by
  obtain ⟨-, -, hzero, ⟨u, rfl⟩, hdotdot, hcanonical⟩ := canonicalMediaEventPath_eq_some h
  have hpath : text "/media/" ++ u = 47 :: (text "media" ++ 47 :: u) := rfl
  have hmedia : 47 ∉ text "media" ∧ text "media" ≠ [] ∧ text "media" ≠ PosixPath.dot := by decide
  have hsplit := PosixPath.splitOn_of_canonical_append (hpath ▸ hcanonical) hmedia.1 hmedia.2
  have hparts : PosixPath.parts (text "/media/" ++ u) = text "media" :: PosixPath.parts u := by
    rw [hpath, PosixPath.parts_slash, PosixPath.parts_append hmedia.1 hmedia.2]
  have hdrop : (text "/media/" ++ u).drop 7 = u := rfl
  have habsolute : PosixPath.isAbsolute u = false := by
    rw [PosixPath.isAbsolute, PosixPath.root_eq_nil hsplit]
    rfl
  rw [hparts, List.mem_cons, not_or] at hdotdot
  rw [List.mem_append, not_or] at hzero
  rw [convertContainerPathToHostPath, if_neg (not_not.2 (List.prefix_append _ _))]
  simp only [hdrop]
  rw [if_neg (by simp [habsolute, hdotdot.2, hzero.2])]
  rfl

end Path

/-! ## The arrival -/

/-- A line is taken for the event of a task: the branch for the event gets the same task, path and identity of
    the source. -/
def Decodes (hexdigest : List ℕ → Text) (event : Text) (task : EventTask) (identity : Option (List ℤ)) :
    Structured → Prop
  | .validationFailed e => event = text "media_validation_failed" ∧ taskEventId hexdigest task = .ok e.taskId ∧
      e.taskType = task.type ∧ e.path = eventPath task ∧ some e.sourceIdentity = identity
  | .task branch e => branch.event = event ∧ e.event = event ∧ taskEventId hexdigest task = .ok e.taskId ∧
      e.taskType = task.type ∧ e.path = eventPath task ∧ e.sourceIdentity = identity
  | _ => False

/-- The bytes of the record of an event: its texts, as they are escaped, and what stands around them. -/
def recordBytes (event : Text) (task : EventTask) (fields : Fields) : ℕ :=
  114 + event.length + (escaped (eventPath task)).length +
    (match fields.error with
    | none => 0
    | some message => 11 + (escaped message).length) + (Json.printMembers fields.evidence).length

section Arrival

variable {D : Decimals} {F : FloatReader} {event time : Text} {task : EventTask} {details : EventDetails}

/-- A text of detail characters prints as itself in quotes. -/
theorem printChar_of_isDetailChar {s : Text} (hs : s.all isDetailChar = true) :
    (Json.printString s).length = s.length + 2 :=
  Json.length_printString (plain_of_isDetailChar hs)

/-- The line of an event is short enough for the monitor. -/
theorem length_eventLine {taskId : Text} {fields : Fields} (hevent : IsEventName event)
    (hlength : taskId.length = 16) (htaskId : taskId.all isDetailChar = true)
    (htype : task.type = text "transcribe") :
    26 + (eventLine (payloadOf event taskId task.type (eventPath task) fields)).length =
      recordBytes event task fields := by
  have htypeLength : (Json.printString (text "transcribe")).length = 12 := by decide
  have hkeys : (Json.printString (text "event")).length = 7 ∧ (Json.printString (text "task_id")).length = 9 ∧
      (Json.printString (text "task_type")).length = 11 ∧ (Json.printString (text "path")).length = 6 ∧
      (Json.printString (text "error")).length = 7 ∧ (text "SUBGEN_EVENT ").length = 13 := by decide
  have hstring : ∀ s, (Json.printString s).length = (escaped s).length + 2 := fun s => by
    simp [Json.printString, escaped]
  rw [htype, recordBytes, payloadOf, Fields.members, eventLine]
  simp only [Json.print, Json.printMembers, List.length_append, List.length_cons, hkeys, htypeLength,
    printChar_of_isDetailChar hevent.2.2, printChar_of_isDetailChar htaskId, hlength, hstring (eventPath task)]
  cases fields.error with
  | none =>
    simp only [Option.map_none, Option.toList_none, List.nil_append]
    omega
  | some message =>
    simp only [Option.map_some, Option.toList_some, List.cons_append, List.nil_append, Json.printMembers,
      Json.print, List.length_append, List.length_cons, hkeys, hstring message]
    omega

/-- The id of a task is a text of 16 hexadecimal digits. -/
theorem taskEventId_digits {H : HexDigest} {taskId : Text} (h : taskEventId H.hexdigest task = .ok taskId) :
    taskId.length = 16 ∧ taskId.all isDetailChar = true := by
  rw [taskEventId] at h
  split at h
  · next bytes _ =>
    rw [← Except.ok.inj h]
    refine ⟨by rw [List.length_take, H.length]; rfl, List.all_eq_true.2 fun c hc => ?_⟩
    have hdigit := H.digits bytes c (List.mem_of_mem_take hc)
    simp only [Json.isDigit, decide_eq_true_eq] at hdigit
    simp only [isDetailChar, Json.isDigit, Bool.or_eq_true, Bool.and_eq_true, decide_eq_true_eq]
    omega
  · cases h

/-- An event is found by its line, whatever happened to the counter of the failures. -/
theorem exists_payload {hexdigest : List ℕ → Text} {receipt : Except TaskError Unit} {line : Text} {n m : ℕ}
    (h : emitSubgenEvent hexdigest receipt event task details n = .ok line m) :
    ∃ payload, eventPayload hexdigest event task details = .ok payload ∧ line = eventLine payload := by
  rw [emitSubgenEvent] at h
  cases hpayload : eventPayload hexdigest event task details with
  | error e =>
    rw [hpayload] at h
    cases h
  | ok payload =>
    rw [hpayload] at h
    refine ⟨payload, rfl, ?_⟩
    simp only [] at h
    split_ifs at h with hfailed
    · simp only [bind, EStateM.bind, pure, EStateM.pure] at h
      split at h
      · cases h
        rfl
      · cases h
    · cases h
      rfl

/-- The event of a task on media goes to the branch for its name, if there is one. -/
theorem dispatch_cases {e : TaskEvent} (hmedia : text "/media/" <+: e.path) :
    (∃ branch, branch.event = e.event ∧ dispatch e = .task branch e) ∨
      e.event ∉ branches.map Branch.event ∧ dispatch e = .unknown e.event := by
  rw [dispatch]
  cases hfind : branches.find? fun branch => branch.event = e.event with
  | none =>
    refine .inr ⟨fun hmem => ?_, rfl⟩
    obtain ⟨branch, hbranch, hevent⟩ := List.mem_map.1 hmem
    exact List.find?_eq_none.1 hfind branch hbranch (decide_eq_true hevent)
  | some branch =>
    have hevent : branch.event = e.event := by simpa using List.find?_some hfind
    refine .inl ⟨branch, hevent, ?_⟩
    cases branch <;> simp [hmedia]

/-- Every branch is in the list of branches. -/
theorem mem_branches (branch : Branch) : branch ∈ branches := by
  cases branch <;> decide

/-- An event that is not about a validation is decoded if the monitor has a branch for it. -/
theorem decodes_task {H : HexDigest} {taskId : Text} (htaskId : taskEventId H.hexdigest task = .ok taskId)
    (hevent : event ≠ text "media_validation_failed") (htype : task.type = text "transcribe")
    (h : Texts event taskId task.type (eventPath task) (fieldsOf details))
    (hpath : boundedEventText maxEventPathChars (.str (eventPath task)) = some (eventPath task))
    (hmedia : text "/media/" <+: eventPath task) :
    Decodes H.hexdigest event task details.sourceIdentity (structuredOf H.hexdigest
      (Json.normMembers (payloadOf event taskId task.type (eventPath task) (fieldsOf details)))) ↔
    event ∈ handledEvents := by
  obtain ⟨hlength, hchars⟩ := taskEventId_digits htaskId
  have hid : boundedEventText maxTaskIdChars (.str taskId) = some taskId :=
    boundedEventText_of_isDetailChar (List.ne_nil_of_length_pos (by omega)) (by rw [hlength]; decide) hchars
  have htypeText : boundedEventText maxTaskTypeChars (.str task.type) = some task.type := by
    rw [htype]
    decide
  rw [structuredOf, h.boundedEventText_event]
  simp only [if_neg hevent, h.taskEventOf_eq hid htypeText hpath]
  have hhandled : event ∈ handledEvents ↔ event ∈ branches.map Branch.event := by
    rw [handledEvents, List.mem_cons, or_iff_right hevent]
  rw [hhandled]
  rcases @dispatch_cases ⟨event, taskId, task.type, eventPath task, (fieldsOf details).sourceIdentity, _⟩ hmedia with
    ⟨branch, hbranch, heq⟩ | ⟨hunknown, heq⟩
  · rw [heq]
    exact iff_of_true ⟨hbranch, rfl, htaskId, rfl, rfl, rfl⟩
      (List.mem_map.2 ⟨branch, mem_branches branch, hbranch⟩)
  · rw [heq]
    exact iff_of_false id hunknown

/-- The failure of a validation is decoded unless the generation of its file has changed. -/
theorem decodes_validation {H : HexDigest} {taskId : Text} {s : Probes} {snapshot : SourceSnapshot}
    (htaskId : taskEventId H.hexdigest task = .ok taskId) (htype : task.type = text "transcribe")
    (hfile : task.videoFile = none) (hinitial : s.initial = some snapshot)
    (hclass : (validateMedia s).outcome ∈ [.invalidMedia, .probeIndeterminate])
    (h : Texts (text "media_validation_failed") taskId task.type (eventPath task)
      (fieldsOf (validationDetails (validateMedia s))))
    (hpath : canonicalMediaEventPath (.str (eventPath task)) = some (eventPath task)) :
    Decodes H.hexdigest (text "media_validation_failed") task (validationDetails (validateMedia s)).sourceIdentity
      (structuredOf H.hexdigest (Json.normMembers (payloadOf (text "media_validation_failed") taskId task.type
        (eventPath task) (fieldsOf (validationDetails (validateMedia s)))))) ↔ s.Unchanged := by
  obtain ⟨hlength, hchars⟩ := taskEventId_digits htaskId
  have hid : boundedEventText maxTaskIdChars (.str taskId) = some taskId :=
    boundedEventText_of_isDetailChar (List.ne_nil_of_length_pos (by omega)) (by rw [hlength]; decide) hchars
  -- The reader computes the identity of a transcription of this path.
  have hexpected : taskEventId H.hexdigest ⟨eventPath task, text "transcribe", none⟩ = .ok taskId := by
    rw [← htaskId, taskEventId, taskEventId, EventTask.identity, EventTask.identity, eventPath, hfile, htype]
  have hidentity : (validateMedia s).sourceIdentity = some snapshot.identity := by
    by_cases hunchanged : s.Unchanged
    · rw [validateMedia_of_unchanged hinitial hunchanged]
    · exact (validateMedia_of_changed hinitial hunchanged).2.1
  have hfields : fieldsOf (validationDetails (validateMedia s)) =
      validationFields (validateMedia s) snapshot.identity := by
    rw [fieldsOf, validationDetails, hidentity]
    rfl
  have hdetail : boundedEventText 64 (.str (validateMedia s).detailCode) = some (validateMedia s).detailCode := by
    have hcode : ∀ o : MediaOutcome, boundedEventText 64 (.str o.detailCode) = some o.detailCode := by
      rintro (_ | _ | _ | _) <;> decide
    by_cases hunchanged : s.Unchanged
    · rw [validateMedia_of_unchanged hinitial hunchanged]
      exact hcode _
    · rw [(validateMedia_of_changed hinitial hunchanged).2.2]
      decide
  rw [structuredOf, h.boundedEventText_event]
  rw [hfields, htype] at h ⊢
  simp only [if_true, h.validationFailedOf_eq hid hpath hexpected hdetail]
  -- The detail code tells a changed generation apart from evidence that does not suffice.
  by_cases hunchanged : s.Unchanged
  · refine iff_of_true ?_ hunchanged
    rw [validateMedia_of_unchanged hinitial hunchanged] at hclass ⊢
    simp only [List.mem_cons, List.not_mem_nil, or_false] at hclass
    rcases hclass with hinvalid | hindeterminate
    · obtain ⟨hffprobe, hpyav⟩ := eq_invalidFormat_of_aggregate hinvalid
      simp only [hffprobe, hpyav]
      exact ⟨rfl, htaskId, htype.symm, rfl, rfl⟩
    · simp only [hindeterminate, if_true, reduceCtorEq, if_false]
      exact ⟨rfl, htaskId, htype.symm, rfl, rfl⟩
  · refine iff_of_false ?_ hunchanged
    obtain ⟨houtcome, -, hcode⟩ := validateMedia_of_changed hinitial hunchanged
    have hcodes : text "source_generation_changed" ≠ text "validator_evidence_indeterminate" := by decide
    simp only [houtcome, hcode, reduceCtorEq, if_false, if_true, if_neg hcodes]
    exact id

/-- Only what failed is sent. -/
theorem eventPayload_outcome {hexdigest : List ℕ → Text} {v : MediaValidation} {payload : List (Text × Json)}
    (h : eventPayload hexdigest (text "media_validation_failed") task (validationDetails v) = .ok payload) :
    v.outcome ∈ [.invalidMedia, .probeIndeterminate] := by
  by_contra houtcome
  have hclass : (validationDetails v).failureClass ∉
      [some (text "invalid_media"), some (text "probe_indeterminate")] := by
    revert houtcome
    cases houtcome : v.outcome <;> simp [validationDetails, houtcome] <;> decide
  simp only [eventPayload, Procedure.bind_eq_ok] at h
  obtain ⟨taskId, htaskId, error, herror, failureClass, hfailure, identity, hidentity, outcomes, houtcomes,
    detail, hdetail, h⟩ := h
  split_ifs at h with hevidence
  · cases h
  · exact hevidence ⟨trivial, .inl hclass⟩

end Arrival

/-- The record of an event is not hidden, it is short enough, and the branch for the event gets it as it
    was sent; its path has a place beneath the media root. -/
def Arrives (D : Decimals) (F : FloatReader) (hexdigest : List ℕ → Text) (mediaRoot : List Text)
    (time line event : Text) (task : EventTask) (identity : Option (List ℤ)) : Prop :=
  ¬ Hides line ∧ ((infoRecord time line).flatMap utf8Char).length ≤ maxStructuredEventBytes ∧
    Decodes hexdigest event task identity (processStructuredEvent D F hexdigest (infoRecord time line)) ∧
    (convertContainerPathToHostPath mediaRoot (eventPath task)).isSome = true

/-- Exactly when an event arrives: no pattern of the log stands in its path or in its error, it fits into
    its bytes, the monitor has a branch for its name, and the failure of a validation is not that of a
    generation that has changed. -/
theorem events_arrive (D : Decimals) (F : FloatReader) (H : HexDigest) (mediaRoot : List Text)
    (receipt : Except TaskError Unit) (event time line : Text) (task : EventTask) (details : EventDetails)
    (probes : Probes) (n m : ℕ) (hevent : IsEventName event) (htype : task.type = text "transcribe")
    (htime : isTimestamp asciiDecimals time = true)
    (hpath : (canonicalMediaEventPath (.str (eventPath task))).isSome = true)
    (hjson : Json.CodePoints (eventPath task) ∧ Json.joinSurrogates (eventPath task) = eventPath task ∧
      ∀ message ∈ (fieldsOf details).error, Json.CodePoints message)
    (hvalidation : event = text "media_validation_failed" → task.videoFile = none ∧
      probes.initial.isSome = true ∧ details = validationDetails (validateMedia probes))
    (h : emitSubgenEvent H.hexdigest receipt event task details n = .ok line m) :
    Arrives D F H.hexdigest mediaRoot time line event task details.sourceIdentity ↔
      ¬ Hides (escaped (eventPath task)) ∧ (∀ message ∈ (fieldsOf details).error, ¬ Hides (escaped message)) ∧
        recordBytes event task (fieldsOf details) ≤ maxStructuredEventBytes ∧ event ∈ handledEvents ∧
        (event = text "media_validation_failed" → probes.Unchanged) := by
  obtain ⟨payload, hpayload, rfl⟩ := exists_payload h
  obtain ⟨taskId, htaskId, hchecked, rfl⟩ := eventPayload_eq hpayload
  obtain ⟨hlength, hchars⟩ := taskEventId_digits htaskId
  obtain ⟨p, hp⟩ := Option.isSome_iff_exists.1 hpath
  obtain ⟨rfl, hbounded, -, hmedia, -⟩ := canonicalMediaEventPath_eq_some hp
  have htypeChars : task.type.all isDetailChar = true := by
    rw [htype]
    decide
  have htexts : Texts event taskId task.type (eventPath task) (fieldsOf details) :=
    ⟨hevent, hchars, htypeChars, hjson.1, hjson.2.1, hjson.2.2, hchecked⟩
  -- What hides the line is in its path or in its error.
  have hhides : Hides (eventLine (payloadOf event taskId task.type (eventPath task) (fieldsOf details))) ↔
      Hides (escaped (eventPath task)) ∨ ∃ message ∈ (fieldsOf details).error, Hides (escaped message) :=
    hides_eventLine hchecked (not_space_mem_of_isDetailChar hevent.2.2)
      (not_space_mem_of_isDetailChar hchars) (not_space_mem_of_isDetailChar htypeChars)
  have hbytes := length_infoRecord htexts.readable htime
  rw [length_eventLine hevent hlength hchars htype] at hbytes
  -- A record that is short enough is read, and then its branch decides.
  have hdecodes : recordBytes event task (fieldsOf details) ≤ maxStructuredEventBytes →
      (Decodes H.hexdigest event task details.sourceIdentity (processStructuredEvent D F H.hexdigest
        (infoRecord time (eventLine (payloadOf event taskId task.type (eventPath task) (fieldsOf details))))) ↔
        event ∈ handledEvents ∧ (event = text "media_validation_failed" → probes.Unchanged)) := by
    intro hshort
    rw [processStructuredEvent_infoRecord htexts.readable htime
      ((length_eventLine hevent hlength hchars htype).trans_le hshort)]
    by_cases hfailed : event = text "media_validation_failed"
    · subst hfailed
      obtain ⟨hfile, hinitial, rfl⟩ := hvalidation rfl
      obtain ⟨snapshot, hsnapshot⟩ := Option.isSome_iff_exists.1 hinitial
      rw [decodes_validation htaskId htype hfile hsnapshot (eventPayload_outcome hpayload) htexts hp]
      have hhandled : text "media_validation_failed" ∈ handledEvents := List.mem_cons_self
      exact ⟨fun hunchanged => ⟨hhandled, fun _ => hunchanged⟩, fun h => h.2 rfl⟩
    · rw [decodes_task htaskId hfailed htype htexts hbounded hmedia]
      exact ⟨fun hhandled => ⟨hhandled, fun heq => absurd heq hfailed⟩, fun h => h.1⟩
  have hhost := convertContainerPathToHostPath_isSome hp mediaRoot
  rw [Arrives, hhides, hbytes, not_or, not_exists]
  simp only [not_and, hhost, and_true]
  constructor
  · rintro ⟨⟨hpathHides, herrorHides⟩, hshort, hdecoded⟩
    exact ⟨hpathHides, herrorHides, hshort, (hdecodes hshort).1 hdecoded⟩
  · rintro ⟨hpathHides, herrorHides, hshort, hrest⟩
    exact ⟨⟨hpathHides, herrorHides⟩, hshort, (hdecodes hshort).2 hrest⟩

/-- A digest of zeros. -/
def zeroDigest : HexDigest where
  hexdigest _ := List.replicate 64 48
  length _ := rfl
  digits _ c hc := .inl (by rw [List.eq_of_mem_replicate hc]; rfl)

/-- The end of a task on a file, as it is logged. -/
def finishLine (path : Text) : Text :=
  eventLine (payloadOf (text "worker_finish") (List.replicate 16 48) (text "transcribe") path
    ⟨none, none, none, none, none⟩)

theorem events_arrive_finish : Arrives asciiDecimals ⟨some, rfl⟩ zeroDigest.hexdigest [text "srv"]
    (text "2026-09-14 10:31:07") (finishLine (text "/media/a b.mkv")) (text "worker_finish")
    ⟨text "/media/a b.mkv", text "transcribe", none⟩ none :=
  have hpoints : ∀ c ∈ text "/media/a b.mkv", c < 0x110000 := by decide
  (events_arrive asciiDecimals ⟨some, rfl⟩ zeroDigest [text "srv"] (.ok ()) (text "worker_finish")
    (text "2026-09-14 10:31:07") (finishLine (text "/media/a b.mkv"))
    ⟨text "/media/a b.mkv", text "transcribe", none⟩ {} ⟨none, .audioPresent, none, .audioPresent, none⟩ 0 0
    (by decide) rfl (by decide) (by decide) ⟨hpoints, by decide, nofun⟩
    (fun h => absurd h (by decide)) rfl).2
      ⟨by decide, nofun, by decide, by decide, fun h => absurd h (by decide)⟩

/-- The title of a file holds a pattern of the log, so that its end is not reported. -/
theorem finish_hidden : emitSubgenEvent zeroDigest.hexdigest (.ok ()) (text "worker_finish")
      ⟨text "/media/The srt was added.mkv", text "transcribe", none⟩ {} 0 =
      .ok (finishLine (text "/media/The srt was added.mkv")) 0 ∧
    canonicalMediaEventPath (.str (text "/media/The srt was added.mkv")) =
      some (text "/media/The srt was added.mkv") ∧
    ¬ Arrives asciiDecimals ⟨some, rfl⟩ zeroDigest.hexdigest [text "srv"] (text "2026-09-14 10:31:07")
      (finishLine (text "/media/The srt was added.mkv")) (text "worker_finish")
      ⟨text "/media/The srt was added.mkv", text "transcribe", none⟩ none := by
  have hchecked : Fields.Checked ⟨none, none, none, none, none⟩ (text "worker_finish") :=
    ⟨nofun, nofun, nofun, nofun⟩
  refine ⟨rfl, by decide, fun h => h.1 ?_⟩
  exact (hides_eventLine hchecked (by decide) (by decide) (by decide)).2 (.inl (by decide))

end Failures

end Subgen

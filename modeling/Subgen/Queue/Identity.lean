import Mathlib.Data.Option.Basic
import Subgen.Lib.Utf8

/-!
# The identity of an upload

`generate_audio_hash`: the bytes of the audio and of the options that are present, one after the other and
without anything between them. What is hashed is the audio and one text, that of all options together
(`hashInput_eq`), and nothing says where the audio ends. So a call can be mistaken for another one as soon
as it has an option, whose bytes may as well be the end of the audio, or has audio that ends like a text,
which may as well be an option (`separated_iff`).
-/

namespace Subgen

/-- The arguments of `generate_audio_hash`. -/
structure AudioRequest where
  audioContent : List ℕ
  task : Option Text := none
  language : Option Text := none
  outputFormat : Option Text := none
  wordTimestamps : Option Bool := none
  initialPrompt : Option Text := none
  encode : Option Bool := none

/-- `if value: hash_input += value.encode("utf-8")`. A surrogate is not encoded. -/
def appendText (hashInput : List ℕ) : Option Text → Option (List ℕ)
  | none => some hashInput
  | some [] => some hashInput
  | some (c :: t) =>
    if ∀ d ∈ c :: t, d < 0x110000 ∧ isSurrogate d = false then
      some (hashInput ++ (c :: t).flatMap utf8Char)
    else none

/-- `str`, of a truth value. -/
def strBool (b : Bool) : Text := if b then text "True" else text "False"

/-- `if value is not None: hash_input += str(value).encode("utf-8")`. -/
def appendBool (hashInput : List ℕ) : Option Bool → List ℕ
  | none => hashInput
  | some b => hashInput ++ (strBool b).flatMap utf8Char

namespace AudioRequest

/-- `hash_input`. -/
def hashInput (r : AudioRequest) : Option (List ℕ) := do
  let hashInput ← appendText r.audioContent r.task
  let hashInput ← appendText hashInput r.language
  let hashInput ← appendText hashInput r.outputFormat
  let hashInput := appendBool hashInput r.wordTimestamps
  let hashInput ← appendText hashInput r.initialPrompt
  return appendBool hashInput r.encode

/-- `generate_audio_hash`. The digest is the first 16 characters of the SHA-256 of some bytes. -/
def generateAudioHash (digest : List ℕ → Text) (r : AudioRequest) : Option Text :=
  r.hashInput.map digest

/-- The same upload, where an empty text is the same as none. -/
structure Same (r r' : AudioRequest) : Prop where
  audioContent : r.audioContent = r'.audioContent
  task : r.task.getD [] = r'.task.getD []
  language : r.language.getD [] = r'.language.getD []
  outputFormat : r.outputFormat.getD [] = r'.outputFormat.getD []
  wordTimestamps : r.wordTimestamps = r'.wordTimestamps
  initialPrompt : r.initialPrompt.getD [] = r'.initialPrompt.getD []
  encode : r.encode = r'.encode

/-! ## The text of the options -/

/-- The texts of all options that are present. -/
def optionText (r : AudioRequest) : Text :=
  r.task.getD [] ++ r.language.getD [] ++ r.outputFormat.getD [] ++ r.wordTimestamps.elim [] strBool ++
    r.initialPrompt.getD [] ++ r.encode.elim [] strBool

theorem appendText_eq_some {bytes bytes' : List ℕ} {value : Option Text}
    (h : appendText bytes value = some bytes') :
    Encodable (value.getD []) ∧ bytes' = bytes ++ (value.getD []).flatMap utf8Char := by
  rcases value with _ | _ | ⟨c, t⟩
  · obtain rfl := Option.some.inj h
    exact ⟨fun _ hc => absurd hc List.not_mem_nil, (List.append_nil _).symm⟩
  · obtain rfl := Option.some.inj h
    exact ⟨fun _ hc => absurd hc List.not_mem_nil, (List.append_nil _).symm⟩
  · rw [appendText] at h
    split at h
    · next hencodable => exact ⟨hencodable, (Option.some.inj h).symm⟩
    · cases h

theorem appendBool_eq (bytes : List ℕ) (value : Option Bool) :
    appendBool bytes value = bytes ++ (value.elim [] strBool).flatMap utf8Char := by
  rcases value with _ | b
  · exact (List.append_nil _).symm
  · rfl

theorem encodable_elim_strBool (value : Option Bool) : Encodable (value.elim [] strBool) := by
  rcases value with _ | _ | _
  · exact fun _ hc => absurd hc List.not_mem_nil
  · change ∀ c ∈ text "False", c < 0x110000 ∧ isSurrogate c = false
    decide
  · change ∀ c ∈ text "True", c < 0x110000 ∧ isSurrogate c = false
    decide

theorem elim_strBool_eq_nil {value : Option Bool} : value.elim [] strBool = [] ↔ value = none := by
  rcases value with _ | _ | _
  · exact iff_of_true rfl rfl
  · exact iff_of_false (by decide) (Option.some_ne_none _)
  · exact iff_of_false (by decide) (Option.some_ne_none _)

/-- What is hashed is the audio and the text of the options. -/
theorem hashInput_eq {r : AudioRequest} (h : r.hashInput.isSome) :
    Encodable r.optionText ∧ r.hashInput = some (r.audioContent ++ r.optionText.flatMap utf8Char) := by
  obtain ⟨bytes, hbytes⟩ := Option.isSome_iff_exists.1 h
  have hbind := hbytes
  simp only [hashInput, Option.bind_eq_bind, Option.bind_eq_some_iff, Option.pure_def] at hbind
  obtain ⟨_, happend₁, _, happend₂, _, happend₃, _, happend₄, hencode⟩ := hbind
  obtain ⟨htask, rfl⟩ := appendText_eq_some happend₁
  obtain ⟨hlanguage, rfl⟩ := appendText_eq_some happend₂
  obtain ⟨houtputFormat, rfl⟩ := appendText_eq_some happend₃
  obtain ⟨hinitialPrompt, rfl⟩ := appendText_eq_some happend₄
  constructor
  · have happend {t t' : Text} (ht : Encodable t) (ht' : Encodable t') : Encodable (t ++ t') := fun c hc =>
      (List.mem_append.1 hc).elim (ht c) (ht' c)
    exact happend (happend (happend (happend (happend htask hlanguage) houtputFormat)
      (encodable_elim_strBool _)) hinitialPrompt) (encodable_elim_strBool _)
  · rw [hbytes, ← hencode, appendBool_eq, appendBool_eq]
    simp [optionText]

/-- Without options the audio alone is hashed. -/
theorem hashInput_audio (audio : List ℕ) :
    hashInput { audioContent := audio } = some audio := rfl

theorem hashInput_task (audio : List ℕ) {c : ℕ} (hc : Encodable [c]) :
    hashInput { audioContent := audio, task := some [c] } = some (audio ++ utf8Char c) := by
  have happend : appendText audio (some [c]) = some (audio ++ utf8Char c) :=
    (if_pos hc).trans (by rw [List.flatMap_cons, List.flatMap_nil, List.append_nil])
  change (appendText audio (some [c])).bind some = _
  rw [happend]
  rfl

theorem utf8Char_ne_nil (c : ℕ) : utf8Char c ≠ [] := by
  rw [utf8Char]
  split_ifs <;> exact List.cons_ne_nil _ _

/-! ## Calls that are like no other -/

/-- The bytes end with a character, in UTF-8. -/
def EndsWithCharacter (bytes : List ℕ) : Prop := ∃ c, Encodable [c] ∧ utf8Char c <:+ bytes

/-- A text that is not empty ends with a character. -/
theorem endsWithCharacter_append (audio : List ℕ) {t : Text} (ht : Encodable t) (hne : t ≠ []) :
    EndsWithCharacter (audio ++ t.flatMap utf8Char) := by
  obtain ⟨t, c, rfl⟩ := List.eq_nil_or_concat' t |>.resolve_left hne
  refine ⟨c, fun d hd => ht d (List.mem_append_right _ hd), ?_⟩
  rw [List.flatMap_append, List.flatMap_cons, List.flatMap_nil, List.append_nil, ← List.append_assoc]
  exact List.suffix_append _ _

/-- A call without options, with audio that does not end like a text. -/
structure Bare (r : AudioRequest) : Prop where
  task : r.task.getD [] = []
  language : r.language.getD [] = []
  outputFormat : r.outputFormat.getD [] = []
  wordTimestamps : r.wordTimestamps = none
  initialPrompt : r.initialPrompt.getD [] = []
  encode : r.encode = none
  audioContent : ¬ EndsWithCharacter r.audioContent

theorem bare_iff {r : AudioRequest} :
    r.Bare ↔ r.optionText = [] ∧ ¬ EndsWithCharacter r.audioContent := by
  have hnil : r.optionText = [] ↔ ((((r.task.getD [] = [] ∧ r.language.getD [] = []) ∧
      r.outputFormat.getD [] = []) ∧ r.wordTimestamps = none) ∧ r.initialPrompt.getD [] = []) ∧
      r.encode = none := by
    simp only [optionText, List.append_eq_nil_iff, elim_strBool_eq_nil]
  rw [hnil]
  constructor
  · rintro ⟨htask, hlanguage, houtputFormat, hwordTimestamps, hinitialPrompt, hencode, haudio⟩
    exact ⟨⟨⟨⟨⟨⟨htask, hlanguage⟩, houtputFormat⟩, hwordTimestamps⟩, hinitialPrompt⟩, hencode⟩, haudio⟩
  · rintro ⟨⟨⟨⟨⟨⟨htask, hlanguage⟩, houtputFormat⟩, hwordTimestamps⟩, hinitialPrompt⟩, hencode⟩, haudio⟩
    exact ⟨htask, hlanguage, houtputFormat, hwordTimestamps, hinitialPrompt, hencode, haudio⟩

/-- A bare call is the only one of which its audio is hashed. -/
theorem Bare.same {r r' : AudioRequest} (hbare : r.Bare) (h : r.hashInput.isSome) (h' : r'.hashInput.isSome)
    (heq : r.hashInput = r'.hashInput) : r.Same r' := by
  obtain ⟨hnil, haudio⟩ := bare_iff.1 hbare
  obtain ⟨-, hbytes⟩ := hashInput_eq h
  obtain ⟨hencodable, hbytes'⟩ := hashInput_eq h'
  rw [hbytes, hbytes', Option.some_inj, hnil, List.flatMap_nil, List.append_nil] at heq
  have hnil' : r'.optionText = [] := by
    by_contra hne
    exact haudio (heq ▸ endsWithCharacter_append r'.audioContent hencodable hne)
  rw [hnil', List.flatMap_nil, List.append_nil] at heq
  have hbare' : r'.Bare := bare_iff.2 ⟨hnil', heq ▸ haudio⟩
  exact ⟨heq, hbare.task.trans hbare'.task.symm, hbare.language.trans hbare'.language.symm,
    hbare.outputFormat.trans hbare'.outputFormat.symm, hbare.wordTimestamps.trans hbare'.wordTimestamps.symm,
    hbare.initialPrompt.trans hbare'.initialPrompt.symm, hbare.encode.trans hbare'.encode.symm⟩

/-- Every other call is mistaken for one: the options are taken for audio, or a character of the audio for
    an option. -/
theorem exists_mistaken {r : AudioRequest} (h : r.hashInput.isSome) (hbare : ¬ r.Bare) :
    ∃ r' : AudioRequest, r'.hashInput.isSome ∧ ¬ r.Same r' ∧ r.hashInput = r'.hashInput := by
  obtain ⟨-, hbytes⟩ := hashInput_eq h
  rw [bare_iff, not_and_or, not_not] at hbare
  by_cases hnil : r.optionText = []
  · obtain ⟨c, hc, audio, haudio⟩ := hbare.resolve_left (not_not.2 hnil)
    rw [hnil, List.flatMap_nil, List.append_nil] at hbytes
    refine ⟨{ audioContent := audio, task := some [c] }, ?_, fun hsame => ?_, ?_⟩
    · rw [hashInput_task audio hc]
      rfl
    · have hlength := congrArg List.length (haudio.trans hsame.audioContent)
      rw [List.length_append, Nat.add_eq_left] at hlength
      exact utf8Char_ne_nil c (List.length_eq_zero_iff.1 hlength)
    · rw [hbytes, hashInput_task audio hc, haudio]
  · refine ⟨{ audioContent := r.audioContent ++ r.optionText.flatMap utf8Char }, rfl, fun hsame => ?_, ?_⟩
    · obtain ⟨c, t, ht⟩ := List.exists_cons_of_ne_nil hnil
      have hempty : r.optionText.flatMap utf8Char = [] := List.self_eq_append_right.1 hsame.audioContent
      rw [ht, List.flatMap_cons, List.append_eq_nil_iff] at hempty
      exact utf8Char_ne_nil c hempty.1
    · rw [hbytes, hashInput_audio]

/-- A call differs from every other one in what is hashed, and in its identity under an injective digest, if
    and only if it is bare. -/
theorem separated_iff {r : AudioRequest} (h : r.hashInput.isSome) {digest : List ℕ → Text}
    (hdigest : Function.Injective digest) :
    ((∀ r' : AudioRequest, r'.hashInput.isSome → ¬ r.Same r' → r.hashInput ≠ r'.hashInput) ↔ r.Bare) ∧
      ((∀ r' : AudioRequest, r'.hashInput.isSome → ¬ r.Same r' →
        r.generateAudioHash digest ≠ r'.generateAudioHash digest) ↔ r.Bare) := by
  have hfirst : (∀ r' : AudioRequest, r'.hashInput.isSome → ¬ r.Same r' → r.hashInput ≠ r'.hashInput) ↔
      r.Bare := by
    constructor
    · intro hseparated
      by_contra hbare
      obtain ⟨r', h', hsame, heq⟩ := exists_mistaken h hbare
      exact hseparated r' h' hsame heq
    · exact fun hbare r' h' hsame heq => hsame (hbare.same h h' heq)
  refine ⟨hfirst, ?_⟩
  simp only [← hfirst, generateAudioHash, ne_eq, (Option.map_injective hdigest).eq_iff]

/-- A call with audio that ends with no character differs from every other one. -/
theorem separated_byte :
    (∀ r' : AudioRequest, r'.hashInput.isSome → ¬ Same { audioContent := [255] } r' →
      hashInput { audioContent := [255] } ≠ r'.hashInput) ∧
    ∀ r' : AudioRequest, r'.hashInput.isSome → ¬ Same { audioContent := [255] } r' →
      generateAudioHash id { audioContent := [255] } ≠ r'.generateAudioHash id := by
  have hbare : Bare { audioContent := [255] } := by
    refine ⟨rfl, rfl, rfl, rfl, rfl, rfl, ?_⟩
    rintro ⟨c, -, hsuffix⟩
    have hlast : utf8Char c = [255] := by
      rcases List.suffix_cons_iff.1 hsuffix with heq | hnil
      · exact heq
      · exact absurd (List.suffix_nil.1 hnil) (utf8Char_ne_nil c)
    rw [utf8Char] at hlast
    split_ifs at hlast with hc
    · rw [List.cons.inj hlast |>.1] at hc
      exact absurd hc (by decide)
    all_goals simp at hlast
  have h := separated_iff (r := { audioContent := [255] }) rfl Function.injective_id
  exact ⟨h.1.2 hbare, h.2.2 hbare⟩

/-- A prompt that is hidden at the end of the audio of another upload. -/
theorem not_separated_prompt : ¬ ∀ r r' : AudioRequest, r.hashInput.isSome → r'.hashInput.isSome →
    ¬ r.Same r' → r.hashInput ≠ r'.hashInput := by
  intro h
  let r : AudioRequest :=
    ⟨text "data", some (text "transcribe"), some (text "en"), some (text "srt"), some false,
      some (text "transcribeensrtFalse"), some true⟩
  let r' : AudioRequest :=
    ⟨text "datatranscribeensrtFalse", some (text "transcribe"), some (text "en"), some (text "srt"),
      some false, none, some true⟩
  have hsame : ¬ r.Same r' := fun hsame => absurd hsame.audioContent (by decide)
  exact h r r' (by decide) (by decide) hsame (by decide)

end AudioRequest

end Subgen

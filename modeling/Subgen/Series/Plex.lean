import Subgen.Lib.JsonRoundTrip

/-!
# The episodes of a Plex show

`get_next_plex_episode` and the loop of `receive_plex_webhook` that queues a season or a series, over the
answers of an arbitrary server, and the server of a show.

A season is left when the number of an episode is the number of episodes in the season, and the next
episode is the one with the next number, so that a show whose numbers have gaps is not queued as a whole.

What a server answers is a document with the attributes that the code reads (`PlexDocument`), a status that
`raise_for_status` refuses, no XML at all, or an exception (`PlexServer`). Attributes are texts and may be
missing; where the code makes a number of one, it is that of `int`, with blanks around it and single
underscores between its digits (`int`). A missing attribute or a text that is no number raises, as a request
may (`PlexError`), and whatever is raised is logged and taken for the end of the show.

* `nextPlexEpisode`: the answer for one episode, with every way out of it;
* `queueSeries`: the loop, which goes on until there is no next episode;
* `int_printInt`: the numbers of a show are read from its answers.
-/

namespace Subgen

/-! ## Numbers in attributes -/

/-- What `str.strip` takes away, of the characters of ASCII and Latin-1. -/
def isBlank (c : ℕ) : Bool := (9 ≤ c ∧ c ≤ 13) ∨ (28 ≤ c ∧ c ≤ 32) ∨ c = 133 ∨ c = 160

/-- Digits, with single underscores between them. -/
def digitsOf (t : Text) : Option ℕ :=
  let groups := t.splitOn 95
  if groups.all fun g => g ≠ [] ∧ g.all Json.isDigit then some (Json.natOf groups.flatten) else none

/-- `int(t)`, for the decimal digits of ASCII. -/
def int (t : Text) : Option ℤ :=
  match ((t.dropWhile isBlank).reverse.dropWhile isBlank).reverse with
  | 45 :: ds => (digitsOf ds).map fun n => -n
  | 43 :: ds => (digitsOf ds).map Int.ofNat
  | ds => (digitsOf ds).map Int.ofNat

example : int (text " -1_0\n") = some (-10) := by decide
example : int (text "1__0") = none := by decide

theorem digitsOf_printNat (n : ℕ) : digitsOf (Json.printNat n) = some n := by
  have hdigits := Json.isDigit_printNat n
  obtain ⟨c, ds, hcons, -⟩ := Json.printNat_cons n
  have hsplit : (Json.printNat n).splitOn 95 = [Json.printNat n] :=
    List.splitOn_eq_singleton fun hmem => absurd (hdigits 95 hmem) (by decide)
  rw [digitsOf, hsplit, if_pos, List.flatten_singleton, Json.natOf_printNat]
  simpa [hcons] using hdigits

theorem isBlank_printInt (n : ℤ) : ∀ c ∈ Json.printInt n, isBlank c = false := by
  have hdigits : ∀ m, ∀ c ∈ Json.printNat m, isBlank c = false := by
    intro m c hc
    have hdigit := Json.isDigit_printNat m c hc
    simp only [Json.isDigit, decide_eq_true_eq] at hdigit
    simp only [isBlank, decide_eq_false_iff_not]
    omega
  rcases n with n | n
  · exact hdigits n
  · intro c hc
    rcases List.mem_cons.1 hc with rfl | hc
    · rfl
    · exact hdigits (n + 1) c hc

theorem dropWhile_isBlank {t : Text} (ht : ∀ c ∈ t, isBlank c = false) : t.dropWhile isBlank = t := by
  rcases t with _ | ⟨c, t⟩
  · rfl
  · exact List.dropWhile_cons_of_neg (by simp [ht c List.mem_cons_self])

theorem int_printInt (n : ℤ) : int (Json.printInt n) = some n := by
  have hblank := isBlank_printInt n
  have hstrip : (((Json.printInt n).dropWhile isBlank).reverse.dropWhile isBlank).reverse = Json.printInt n := by
    rw [dropWhile_isBlank hblank, dropWhile_isBlank (by simpa using hblank), List.reverse_reverse]
  rw [int, hstrip]
  rcases n with n | n
  · obtain ⟨c, ds, hcons, -⟩ := Json.printNat_cons n
    have hdigit : Json.isDigit c = true := Json.isDigit_printNat n c (by simp [hcons])
    have hread := digitsOf_printNat n
    have hprint : Json.printInt (Int.ofNat n) = c :: ds := hcons
    rw [hcons] at hread
    rw [hprint]
    split
    · next heq => obtain ⟨rfl, rfl⟩ := List.cons.inj heq; exact absurd hdigit (by decide)
    · next heq => obtain ⟨rfl, rfl⟩ := List.cons.inj heq; exact absurd hdigit (by decide)
    · rw [hread]; rfl
  · change (digitsOf (Json.printNat (n + 1))).map (fun n => -(n : ℤ)) = _
    rw [digitsOf_printNat]
    rfl

/-! ## The answers of a server -/

/-- The attributes of a `Video`. -/
structure PlexVideo where
  ratingKey : Option Text
  grandparentRatingKey : Option Text
  parentRatingKey : Option Text
  index : Option Text
  parentIndex : Option Text

/-- The rating key and the index of a video. -/
def PlexVideo.item (video : PlexVideo) : Option Text × Option Text := (video.ratingKey, video.index)

/-- The attributes of a `Directory`. -/
structure PlexDirectory where
  type : Option Text
  ratingKey : Option Text
  index : Option Text

/-- The rating key and the index of a season. -/
def PlexDirectory.item (season : PlexDirectory) : Option Text × Option Text := (season.ratingKey, season.index)

/-- The elements of a document, in their order, with the attribute `file` of each `Part`. -/
structure PlexDocument where
  videos : List PlexVideo := []
  directories : List PlexDirectory := []
  parts : List (Option Text) := []

/-- An answer; its content is missing if it is no XML. -/
structure PlexResponse where
  statusCode : ℕ
  content : Option PlexDocument

/-- `RequestException`, or another exception. -/
inductive PlexError
  | request
  | other

/-- What is asked for: `/library/metadata/{key}`, or its `children`. -/
inductive PlexPath
  | item (key : Text)
  | children (key : Text)

/-- How a server answers `request_client.get`. -/
abbrev PlexServer := PlexPath → Except PlexError PlexResponse

namespace PlexServer

variable (S : PlexServer)

/-- `ET.fromstring(response.content)`, after `response.raise_for_status()`. -/
def document (path : PlexPath) : Except PlexError PlexDocument := do
  let response ← S path
  if 400 ≤ response.statusCode ∧ response.statusCode < 600 then throw .request
  response.content.elim (throw .other) pure

/-- The `ratingKey` of the first element whose `index` follows `current`. -/
def firstSuccessor (current : Option ℤ) : List (Option Text × Option Text) →
    Except PlexError (Option (Option Text))
  | [] => pure none
  | (_, none) :: items => firstSuccessor current items
  | (key, some index) :: items =>
    match int index, current with
    | some index, some current => if index = current + 1 then pure (some key) else firstSuccessor current items
    | _, _ => throw .other

theorem firstSuccessor_map {α : Type} (key : α → Option Text) (number : α → ℤ) (current : ℤ) (items : List α) :
    firstSuccessor (some current) (items.map fun x => (key x, some (Json.printInt (number x)))) =
      .ok ((items.find? fun x => number x = current + 1).map key) := by
  induction items with
  | nil => rfl
  | cons x items ih =>
    rw [List.map_cons, firstSuccessor.eq_def]
    simp only [int_printInt, List.find?_cons]
    by_cases hx : number x = current + 1
    · simp only [hx, decide_true, if_true, Option.map_some]
      rfl
    · simp only [hx, decide_false, if_false, ih]

/-- `get_plex_file_name`. -/
def getPlexFileName (itemid : Text) : Except PlexError Text := do
  let response ← S (.item itemid)
  if response.statusCode = 200 then
    match response.content with
    | some ⟨_, _, some file :: _⟩ => pure file
    | _ => throw .other
  else throw .other

/-- The number of the current episode, if it is listed, and its season; nothing if it has no `index`. -/
def currentEpisode (episodes : List PlexVideo) (key : Text) :
    Except PlexError (Option (Option ℤ × Option Text)) :=
  match episodes.find? fun episode => episode.ratingKey = some key with
  | none => pure (some (none, none))
  | some episode =>
    match episode.index with
    | none => pure none
    | some index => (int index).elim (throw .other) fun number => pure (some (some number, episode.parentIndex))

/-- The body of the `try` in `get_next_plex_episode`. -/
def nextPlexEpisode (key : Text) (stayInSeason : Bool) : Except PlexError (Option Text) := do
  let root ← S.document (.item key)
  let some video := root.videos.head? | throw .other
  let some grandparentRatingKey := video.grandparentRatingKey | pure none
  let some parentRatingKey := video.parentRatingKey | pure none
  let show_ ← S.document (.children grandparentRatingKey)
  let seasons := show_.directories.filter fun season => season.type = some (text "season")
  let season ← S.document (.children parentRatingKey)
  let episodes := season.videos
  let episodesInSeason : ℤ := episodes.length
  let some (currentNumber, currentSeason) ← currentEpisode episodes key | pure none
  if stayInSeason then
    if currentNumber = some episodesInSeason then pure none
    else
      match ← firstSuccessor currentNumber (episodes.map PlexVideo.item) with
      | some next => pure next
      | none => do
        let _ ← S.getPlexFileName key
        pure none
  else do
    let nextSeason ← firstSuccessor (currentSeason.bind int) (seasons.map PlexDirectory.item)
    if currentNumber = some episodesInSeason then
      match nextSeason.join with
      | none => pure none
      | some nextSeason => do
        let episodes := (← S.document (.children nextSeason)).videos
        match ← firstSuccessor (some 0) (episodes.map PlexVideo.item) with
        | some next => pure next
        | none => do
          let _ ← S.getPlexFileName key
          pure none
    else
      match ← firstSuccessor currentNumber (episodes.map PlexVideo.item) with
      | some next => pure next
      | none => do
        let _ ← S.getPlexFileName key
        pure none

/-- `get_next_plex_episode`; every exception is logged. -/
def getNextPlexEpisode (key : Text) (stayInSeason : Bool) : Option Text :=
  match S.nextPlexEpisode key stayInSeason with
  | .ok next => next
  | .error _ => none

/-- A call of `gen_subtitles_queue`. -/
structure Queued where
  filePath : Text
  plexItemId : Text
  deriving DecidableEq

/-- The calls of the loop in `receive_plex_webhook`, unless it takes more than `fuel` rounds. A call of
    `gen_subtitles_queue` is taken to return. -/
def queueSeries (pathMapping : Text → Text) (stayInSeason : Bool) : ℕ → Text → Option (List Queued)
  | 0, _ => none
  | fuel + 1, key =>
    match S.getPlexFileName key with
    | .error _ => some []
    | .ok file =>
      match S.getNextPlexEpisode key stayInSeason with
      | none => some [⟨pathMapping file, key⟩]
      | some next => (queueSeries pathMapping stayInSeason fuel next).map (⟨pathMapping file, key⟩ :: ·)

end PlexServer

end Subgen

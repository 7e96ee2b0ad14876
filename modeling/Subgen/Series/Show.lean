import Subgen.Series.Plex

/-!
# The server of a show

A show with its seasons and their episodes, listed in any order, the answers of a server that has it, and
what `get_next_plex_episode` finds there: `Show.next`, the episode with the next number, or the first one
of the next season.

The rating keys of a show are distinct, those of the episodes, of the seasons and of the show itself, and so
are the numbers in a season; these are fields of `Season` and `Show`, so that a show without them cannot be
built. The documents of the server are those that Plex sends, with every index as a decimal text. The lemmas
follow the source: the document of an episode, that of its season, the search for its number, and the next one
(`getNextPlexEpisode_server`).
-/

namespace Subgen

/-- An episode of a season. -/
structure SeasonEpisode where
  ratingKey : Text
  number : ℕ
  file : Text
  deriving DecidableEq

/-- A season with its episodes. -/
structure Season where
  ratingKey : Text
  index : ℤ
  episodes : List SeasonEpisode
  deriving DecidableEq

/-- A show, with the keys and the numbers that Plex gives to its parts. -/
structure Show where
  ratingKey : Text
  seasons : List Season
  indices_nodup : (seasons.map Season.index).Nodup
  seasonKeys_nodup : (ratingKey :: seasons.map Season.ratingKey).Nodup
  episodeKeys_nodup : ((seasons.flatMap Season.episodes).map SeasonEpisode.ratingKey).Nodup
  numbers_nodup : ∀ season ∈ seasons, (season.episodes.map SeasonEpisode.number).Nodup
  number_pos : ∀ season ∈ seasons, ∀ episode ∈ season.episodes, 0 < episode.number

namespace Season

variable (season : Season)

/-- The episode as Plex lists it. -/
def video (showKey : Text) (episode : SeasonEpisode) : PlexVideo where
  ratingKey := some episode.ratingKey
  grandparentRatingKey := some showKey
  parentRatingKey := some season.ratingKey
  index := some (Json.printInt episode.number)
  parentIndex := some (Json.printInt season.index)

/-- The season as Plex lists it. -/
def directory : PlexDirectory where
  type := some (text "season")
  ratingKey := some season.ratingKey
  index := some (Json.printInt season.index)

/-- The episode with a number. -/
def episode? (n : ℕ) : Option SeasonEpisode := season.episodes.find? fun episode => episode.number = n

end Season

namespace Show

section

variable (s : Show)

/-- The season with an index. -/
def season? (i : ℤ) : Option Season := s.seasons.find? fun season => season.index = i

/-- An episode of the show, with its season. -/
@[ext] structure Place where
  season : Season
  episode : SeasonEpisode
  season_mem : season ∈ s.seasons
  episode_mem : episode ∈ season.episodes

/-- The episodes, each with its season. -/
def entries : List (Season × SeasonEpisode) :=
  s.seasons.flatMap fun season => season.episodes.map fun episode => (season, episode)

/-- The document of an item. -/
def item? (key : Text) : Option PlexDocument :=
  (s.entries.find? fun p => p.2.ratingKey = key).map fun p =>
    { videos := [p.1.video s.ratingKey p.2], parts := [some p.2.file] }

/-- The document of the children of an item. -/
def children? (key : Text) : Option PlexDocument :=
  if key = s.ratingKey then some { directories := s.seasons.map Season.directory }
  else (s.seasons.find? fun season => season.ratingKey = key).map fun season =>
    { videos := season.episodes.map (season.video s.ratingKey) }

/-- The server of the show; every request for one of its parts succeeds. -/
def server : PlexServer := fun path =>
  .ok <| match path with
    | .item key => (s.item? key).elim ⟨404, none⟩ fun document => ⟨200, some document⟩
    | .children key => (s.children? key).elim ⟨404, none⟩ fun document => ⟨200, some document⟩

/-- The next episode, if it is found. -/
def next (stayInSeason : Bool) (p : s.Place) : Option (Season × SeasonEpisode) :=
  if p.episode.number = p.season.episodes.length then
    if stayInSeason then none
    else (s.season? (p.season.index + 1)).bind fun season => (season.episode? 1).map (season, ·)
  else (p.season.episode? (p.episode.number + 1)).map (p.season, ·)

end

/-! ## What is found there -/

variable {s : Show} {p : s.Place}

/-- In a list without repetitions of a key, the first element with a key is the only one. -/
theorem find?_eq_some_of_nodup {α β : Type} [DecidableEq β] {key : α → β} {items : List α}
    (hnodup : (items.map key).Nodup) {x : α} (hx : x ∈ items) :
    items.find? (fun y => key y = key x) = some x := by
  rcases hfound : items.find? (fun y => key y = key x) with _ | y
  · exact absurd (decide_eq_true rfl) (List.find?_eq_none.1 hfound x hx)
  · have hkey : key y = key x := by simpa using List.find?_some hfound
    rw [List.inj_on_of_nodup_map hnodup (List.mem_of_find?_eq_some hfound) hx hkey]

theorem nodup_entries : (s.entries.map fun q => q.2.ratingKey).Nodup := by
  have h := s.episodeKeys_nodup
  have hsnd : s.entries.map Prod.snd = s.seasons.flatMap Season.episodes := by
    simp [entries, List.map_flatMap, Function.comp_def]
  rw [← hsnd, List.map_map] at h
  exact h

theorem Place.mem_entries (p : s.Place) : (p.season, p.episode) ∈ s.entries :=
  List.mem_flatMap.2 ⟨p.season, p.season_mem, List.mem_map.2 ⟨p.episode, p.episode_mem, rfl⟩⟩

theorem item?_ratingKey : s.item? p.episode.ratingKey =
    some { videos := [p.season.video s.ratingKey p.episode], parts := [some p.episode.file] } := by
  rw [item?, find?_eq_some_of_nodup nodup_entries p.mem_entries]
  rfl

theorem children?_ratingKey : s.children? s.ratingKey = some { directories := s.seasons.map Season.directory } :=
  if_pos rfl

theorem children?_season {season : Season} (hseason : season ∈ s.seasons) :
    s.children? season.ratingKey = some { videos := season.episodes.map (season.video s.ratingKey) } := by
  obtain ⟨hnot, hnodup⟩ := List.nodup_cons.1 s.seasonKeys_nodup
  have hne : season.ratingKey ≠ s.ratingKey := fun h => hnot (h ▸ List.mem_map_of_mem hseason)
  rw [children?, if_neg hne, find?_eq_some_of_nodup hnodup hseason]
  rfl

theorem document_item : s.server.document (.item p.episode.ratingKey) =
    .ok { videos := [p.season.video s.ratingKey p.episode], parts := [some p.episode.file] } := by
  simp only [PlexServer.document, server, item?_ratingKey]
  rfl

theorem document_show : s.server.document (.children s.ratingKey) =
    .ok { directories := s.seasons.map Season.directory } := by
  simp only [PlexServer.document, server, children?_ratingKey]
  rfl

theorem document_season {season : Season} (hseason : season ∈ s.seasons) :
    s.server.document (.children season.ratingKey) =
      .ok { videos := season.episodes.map (season.video s.ratingKey) } := by
  simp only [PlexServer.document, server, children?_season hseason]
  rfl

theorem getPlexFileName_server : s.server.getPlexFileName p.episode.ratingKey = .ok p.episode.file := by
  simp only [PlexServer.getPlexFileName, server, item?_ratingKey]
  rfl

theorem nodup_ratingKeys {season : Season} (hseason : season ∈ s.seasons) :
    (season.episodes.map SeasonEpisode.ratingKey).Nodup := by
  have h := s.episodeKeys_nodup
  rw [List.map_flatMap, List.nodup_flatMap] at h
  exact h.1 season hseason

theorem currentEpisode_server :
    PlexServer.currentEpisode (p.season.episodes.map (p.season.video s.ratingKey)) p.episode.ratingKey =
      .ok (some (some p.episode.number, some (Json.printInt p.season.index))) := by
  have hfind : (p.season.episodes.map (p.season.video s.ratingKey)).find?
      (fun episode => episode.ratingKey = some p.episode.ratingKey) = some (p.season.video s.ratingKey p.episode) := by
    rw [List.find?_map]
    have h := find?_eq_some_of_nodup (nodup_ratingKeys p.season_mem) p.episode_mem
    simp only [Function.comp_def, Season.video, Option.some.injEq]
    rw [h]
    rfl
  rw [PlexServer.currentEpisode, hfind]
  simp only [Season.video, int_printInt]
  rfl

theorem firstSuccessor_episodes (season : Season) (n : ℕ) :
    PlexServer.firstSuccessor (some (n : ℤ))
        ((season.episodes.map (season.video s.ratingKey)).map PlexVideo.item) =
      .ok ((season.episode? (n + 1)).map fun episode => some episode.ratingKey) := by
  have hnumber : (fun episode : SeasonEpisode => decide ((episode.number : ℤ) = n + 1)) =
      fun episode => decide (episode.number = n + 1) :=
    funext fun episode => decide_eq_decide.2 (by omega)
  rw [List.map_map, Season.episode?, ← hnumber]
  exact PlexServer.firstSuccessor_map (fun episode : SeasonEpisode => some episode.ratingKey)
    (fun episode => (episode.number : ℤ)) n season.episodes

theorem firstSuccessor_seasons (i : ℤ) :
    PlexServer.firstSuccessor (some i) ((s.seasons.map Season.directory).map PlexDirectory.item) =
      .ok ((s.season? (i + 1)).map fun season => some season.ratingKey) := by
  rw [List.map_map, season?]
  exact PlexServer.firstSuccessor_map (fun season : Season => some season.ratingKey) Season.index i s.seasons

theorem filter_directories : (s.seasons.map Season.directory).filter
    (fun season => season.type = some (text "season")) = s.seasons.map Season.directory := by
  refine List.filter_eq_self.2 fun directory hmem => ?_
  obtain ⟨season, -, rfl⟩ := List.mem_map.1 hmem
  exact decide_eq_true rfl

theorem mem_seasons_of_season? {i : ℤ} {season : Season} (h : s.season? i = some season) :
    season ∈ s.seasons ∧ season.index = i :=
  ⟨List.mem_of_find?_eq_some h, by simpa using List.find?_some h⟩

theorem getNextPlexEpisode_server (stayInSeason : Bool) :
    s.server.getNextPlexEpisode p.episode.ratingKey stayInSeason =
      (s.next stayInSeason p).map fun found => found.2.ratingKey := by
  rw [PlexServer.getNextPlexEpisode, PlexServer.nextPlexEpisode]
  simp only [document_item, document_show, document_season p.season_mem, currentEpisode_server, bind,
    Except.bind, List.head?_cons, Season.video, filter_directories, firstSuccessor_episodes, List.length_map,
    getPlexFileName_server, Option.bind_some, int_printInt, firstSuccessor_seasons]
  rw [next]
  simp only [Option.some.injEq, Nat.cast_inj]
  by_cases hend : p.episode.number = p.season.episodes.length
  · rcases stayInSeason with _ | _
    · rcases hseason : s.season? (p.season.index + 1) with _ | season
      · simp [hend]
        rfl
      · have hfirst := firstSuccessor_episodes (s := s) season 0
        simp only [hend, if_true, Bool.false_eq_true, if_false, Option.map_some, Option.join_some,
          document_season (mem_seasons_of_season? hseason).1, Option.bind_some]
        rw [Nat.cast_zero] at hfirst
        rw [hfirst]
        rcases season.episode? 1 with _ | episode <;> rfl
    · simp [hend]
      rfl
  · simp only [hend, if_false]
    rcases stayInSeason with _ | _ <;> rcases p.season.episode? (p.episode.number + 1) with _ | episode <;> rfl

end Show

end Subgen

import Mathlib.Data.Finite.Defs
import Mathlib.Order.Interval.Finset.Nat
import Mathlib.Data.Fintype.Card
import Mathlib.Order.WellFounded
import Subgen.Series.Show

/-!
# Which shows are queued as a whole

The loop over `get_next_plex_episode` always comes to an end, since each episode that it finds is behind the
one before (`Show.Step.before`). It queues all the episodes that follow if and only if the numbers of the
show have no gap that it meets (`Show.Gapless`).

* `Show.Walk`: the episodes that the loop visits;
* `Show.Walk.complete_iff`: they are all that follow if and only if the show is `Gapless`;
* `Show.queues_following_iff`: what the loop queues.
-/

namespace Subgen

namespace Season

variable {season : Season} {n : ℕ}

/-- The episodes behind `n` are numbered one after the other, and none of them comes right after the number
    of episodes. -/
def FollowOn (season : Season) (n : ℕ) : Prop :=
  ∀ episode ∈ season.episodes, n < episode.number →
    episode.number ≠ season.episodes.length + 1 ∧ ∃ previous ∈ season.episodes, previous.number + 1 = episode.number

/-- The episodes are numbered from one to their number. -/
def Numbered (season : Season) : Prop :=
  ∀ n, (∃ episode ∈ season.episodes, episode.number = n) ↔ 1 ≤ n ∧ n ≤ season.episodes.length

/-- A season that goes on without gaps has an episode of every number up to its largest. -/
theorem FollowOn.exists_number (h : season.FollowOn n) {episode : SeasonEpisode}
    (hmem : episode ∈ season.episodes) {k : ℕ} (hk : n < k) (hle : k ≤ episode.number) :
    ∃ e ∈ season.episodes, e.number = k := by
  induction hle using Nat.decreasingInduction with
  | of_succ k _ ih =>
    obtain ⟨e, he, hnumber⟩ := ih (by omega)
    obtain ⟨-, previous, hprevious, heq⟩ := h e he (by omega)
    exact ⟨previous, hprevious, by omega⟩
  | self => exact ⟨episode, hmem, rfl⟩

/-- The episode after `n` is there, if there is any behind it. -/
theorem FollowOn.exists_succ (h : season.FollowOn n) {episode : SeasonEpisode}
    (hmem : episode ∈ season.episodes) (hlt : n < episode.number) :
    n ≠ season.episodes.length ∧ ∃ e ∈ season.episodes, e.number = n + 1 := by
  obtain ⟨e, he, hnumber⟩ := h.exists_number hmem n.lt_succ_self hlt
  have hlast := (h e he (by omega)).1
  exact ⟨by omega, e, he, hnumber⟩

/-- It goes on without gaps from later numbers, too. -/
theorem FollowOn.mono (h : season.FollowOn n) {m : ℕ} (hle : n ≤ m) : season.FollowOn m :=
  fun episode hmem hlt => h episode hmem (by omega)

/-- A season with the numbers from one on has no gaps. -/
theorem Numbered.followOn (h : season.Numbered) (hn : 1 ≤ n) : season.FollowOn n := by
  intro episode hmem hlt
  obtain ⟨-, hle⟩ := (h episode.number).1 ⟨episode, hmem, rfl⟩
  obtain ⟨previous, hprevious, heq⟩ := (h (episode.number - 1)).2 ⟨by omega, by omega⟩
  exact ⟨by omega, previous, hprevious, by omega⟩

variable (hnodup : (season.episodes.map SeasonEpisode.number).Nodup)
  (hpos : ∀ episode ∈ season.episodes, 0 < episode.number)
include hnodup

/-- The numbers of a season are distinct. -/
theorem card_numbers : (season.episodes.map SeasonEpisode.number).toFinset.card = season.episodes.length := by
  rw [List.toFinset_card_of_nodup hnodup, List.length_map]

include hpos

/-- If none is larger than the season is long, they are the numbers from one on. -/
theorem numbered_of_le (h : ∀ episode ∈ season.episodes, episode.number ≤ season.episodes.length) :
    season.Numbered := by
  have hsub : (season.episodes.map SeasonEpisode.number).toFinset ⊆ Finset.Icc 1 season.episodes.length := by
    intro n hn
    obtain ⟨episode, hmem, rfl⟩ := List.mem_map.1 (List.mem_toFinset.1 hn)
    exact Finset.mem_Icc.2 ⟨hpos episode hmem, h episode hmem⟩
  have heq := Finset.eq_of_subset_of_card_le hsub (by rw [card_numbers hnodup, Nat.card_Icc]; omega)
  intro n
  rw [← Finset.mem_Icc, ← heq, List.mem_toFinset, List.mem_map]

/-- A season that is gone through from its first episode. -/
theorem numbered_of_followOn (h : season.FollowOn 1)
    (hfirst : ∃ episode ∈ season.episodes, episode.number = 1) : season.Numbered := by
  refine numbered_of_le hnodup hpos fun episode hmem => ?_
  have hsub : Finset.Icc 1 episode.number ⊆ (season.episodes.map SeasonEpisode.number).toFinset := by
    intro n hn
    obtain ⟨hone, hle⟩ := Finset.mem_Icc.1 hn
    rw [List.mem_toFinset, List.mem_map]
    rcases hone.eq_or_lt with rfl | hlt
    · exact hfirst
    · exact h.exists_number hmem hlt hle
  have hcard := Finset.card_le_card hsub
  rw [card_numbers hnodup, Nat.card_Icc] at hcard
  omega

end Season

namespace Show

variable {s : Show} {stayInSeason : Bool}

/-! ## The order of the episodes -/

/-- One episode comes before another, by the season and then by the number. -/
def Place.Before (p q : s.Place) : Prop :=
  p.season.index < q.season.index ∨ p.season.index = q.season.index ∧ p.episode.number < q.episode.number

/-- A season is known by its index. -/
theorem season_ext {t u : Season} (ht : t ∈ s.seasons) (hu : u ∈ s.seasons) (h : t.index = u.index) : t = u :=
  List.inj_on_of_nodup_map s.indices_nodup ht hu h

/-- A place is known by the index and the number. -/
theorem Place.ext_of_numbers {p q : s.Place} (hindex : p.season.index = q.season.index)
    (hnumber : p.episode.number = q.episode.number) : p = q := by
  have hseason := season_ext p.season_mem q.season_mem hindex
  refine Place.ext hseason (List.inj_on_of_nodup_map (s.numbers_nodup p.season p.season_mem) p.episode_mem ?_ hnumber)
  rw [hseason]
  exact q.episode_mem

/-- To come before is transitive. -/
theorem Place.Before.trans {p q r : s.Place} (hpq : p.Before q) (hqr : q.Before r) : p.Before r := by
  rw [Place.Before] at *
  omega

/-- Nothing comes before itself. -/
theorem Place.Before.ne {p q : s.Place} (h : p.Before q) : q ≠ p := by
  rintro rfl
  rw [Place.Before] at h
  omega

instance : Finite s.Place := by
  refine Finite.of_injective (fun p : s.Place => (⟨(p.season, p.episode), p.mem_entries⟩ : { x // x ∈ s.entries })) ?_
  intro p q h
  obtain ⟨hseason, hepisode⟩ := Prod.mk.inj (Subtype.mk.inj h)
  exact Place.ext hseason hepisode

/-- No walk through a show goes on for ever. -/
theorem wellFounded_after : WellFounded fun q p : s.Place => p.Before q := by
  have : IsTrans s.Place fun q p => p.Before q := ⟨fun _ _ _ h h' => h'.trans h⟩
  have : Std.Irrefl fun q p : s.Place => p.Before q := ⟨fun _ h => h.ne rfl⟩
  exact Finite.wellFounded_of_trans_of_irrefl _

/-! ## The steps of the loop -/

/-- What `get_next_plex_episode` finds. -/
inductive Step (stayInSeason : Bool) (p q : s.Place) : Prop
  | within (hend : p.episode.number ≠ p.season.episodes.length) (hseason : q.season.index = p.season.index)
      (hnumber : q.episode.number = p.episode.number + 1)
  | across (hend : p.episode.number = p.season.episodes.length) (hstay : stayInSeason = false)
      (hseason : q.season.index = p.season.index + 1) (hnumber : q.episode.number = 1)

/-- A step goes forward. -/
theorem Step.before {p q : s.Place} (h : Step stayInSeason p q) : p.Before q := by
  rw [Place.Before]
  rcases h with ⟨-, hseason, hnumber⟩ | ⟨-, -, hseason, -⟩ <;> omega

/-- A season is found by its index. -/
theorem season?_eq {season : Season} (h : season ∈ s.seasons) : s.season? season.index = some season :=
  find?_eq_some_of_nodup s.indices_nodup h

/-- An episode is found by its number. -/
theorem episode?_eq (p : s.Place) : p.season.episode? p.episode.number = some p.episode :=
  find?_eq_some_of_nodup (s.numbers_nodup p.season p.season_mem) p.episode_mem

/-- What is found is an episode of the season. -/
theorem mem_of_episode? {season : Season} {n : ℕ} {episode : SeasonEpisode}
    (h : season.episode? n = some episode) : episode ∈ season.episodes ∧ episode.number = n :=
  ⟨List.mem_of_find?_eq_some h, by simpa using List.find?_some h⟩

/-- What comes next is a place of the show. -/
theorem exists_step {p : s.Place} {found : Season × SeasonEpisode} (h : s.next stayInSeason p = some found) :
    ∃ q : s.Place, found = (q.season, q.episode) ∧ Step stayInSeason p q := by
  rw [next] at h
  split at h
  · next hend =>
    split at h
    · cases h
    · next hstay =>
      obtain ⟨season, hseason, h⟩ := Option.bind_eq_some_iff.1 h
      obtain ⟨episode, hepisode, rfl⟩ := Option.map_eq_some_iff.1 h
      obtain ⟨hmem, hindex⟩ := mem_seasons_of_season? hseason
      obtain ⟨hmem', hnumber⟩ := mem_of_episode? hepisode
      exact ⟨⟨season, episode, hmem, hmem'⟩, rfl, .across hend (by simpa using hstay) hindex hnumber⟩
  · next hend =>
    obtain ⟨episode, hepisode, rfl⟩ := Option.map_eq_some_iff.1 h
    obtain ⟨hmem, hnumber⟩ := mem_of_episode? hepisode
    exact ⟨⟨p.season, episode, p.season_mem, hmem⟩, rfl, .within hend rfl hnumber⟩

/-- A step is what the source computes. -/
theorem Step.next_eq {p q : s.Place} (h : Step stayInSeason p q) :
    s.next stayInSeason p = some (q.season, q.episode) := by
  rw [next]
  rcases h with ⟨hend, hseason, hnumber⟩ | ⟨hend, hstay, hseason, hnumber⟩
  · rw [if_neg hend, ← season_ext q.season_mem p.season_mem hseason, ← hnumber, episode?_eq]
    rfl
  · rw [if_pos hend, if_neg (by simp [hstay]), ← hseason, season?_eq q.season_mem, Option.bind_some, ← hnumber,
      episode?_eq]
    rfl

/-- The episodes that the loop visits. -/
inductive Walk (stayInSeason : Bool) : s.Place → List s.Place → Prop
  | last {p : s.Place} (hlast : ∀ q, ¬ Step stayInSeason p q) : Walk stayInSeason p [p]
  | step {p q : s.Place} {visited : List s.Place} (hstep : Step stayInSeason p q)
      (hrest : Walk stayInSeason q visited) : Walk stayInSeason p (p :: visited)

/-- There is a walk from every place. -/
theorem exists_walk (p : s.Place) : ∃ visited, Walk stayInSeason p visited := by
  induction p using wellFounded_after.induction with
  | _ p ih =>
    by_cases hlast : ∃ q, Step stayInSeason p q
    · obtain ⟨q, hstep⟩ := hlast
      obtain ⟨visited, hrest⟩ := ih q hstep.before
      exact ⟨p :: visited, .step hstep hrest⟩
    · exact ⟨[p], .last fun q hstep => hlast ⟨q, hstep⟩⟩

/-- What is queued for an episode. -/
def Place.queued (pathMapping : Text → Text) (p : s.Place) : PlexServer.Queued :=
  ⟨pathMapping p.episode.file, p.episode.ratingKey⟩

/-- The loop ends, and has queued these episodes. -/
def Queues (pathMapping : Text → Text) (stayInSeason : Bool) (start : s.Place) (places : List s.Place) : Prop :=
  ∃ enough, ∀ fuel ≥ enough, s.server.queueSeries pathMapping stayInSeason fuel start.episode.ratingKey =
    some (places.map (Place.queued pathMapping))

/-- A walk queues what it visits. -/
theorem Walk.queues {pathMapping : Text → Text} {p : s.Place} {visited : List s.Place}
    (h : Walk stayInSeason p visited) : Queues pathMapping stayInSeason p visited := by
  refine ⟨visited.length, ?_⟩
  induction h with
  | @last p hlast =>
    intro fuel hfuel
    obtain ⟨fuel, rfl⟩ : ∃ n, fuel = n + 1 := ⟨fuel - 1, by simp at hfuel; omega⟩
    have hnext : s.next stayInSeason p = none := by
      rcases hnext : s.next stayInSeason p with _ | found
      · rfl
      · obtain ⟨q, -, hstep⟩ := exists_step hnext
        exact absurd hstep (hlast q)
    rw [PlexServer.queueSeries, getPlexFileName_server]
    simp only [getNextPlexEpisode_server, hnext, Option.map_none, List.map_cons, List.map_nil]
    rfl
  | @step p q visited hstep _ ih =>
    intro fuel hfuel
    obtain ⟨fuel, rfl⟩ : ∃ n, fuel = n + 1 := ⟨fuel - 1, by simp at hfuel; omega⟩
    rw [PlexServer.queueSeries, getPlexFileName_server]
    simp only [getNextPlexEpisode_server, hstep.next_eq, Option.map_some, List.map_cons]
    rw [ih fuel (by simpa using hfuel)]
    rfl

/-! ## The episodes that follow -/

variable {p q r : s.Place}

/-- There is a season for every number behind `i` up to `j`. -/
def Chained (s : Show) (i j : ℤ) : Prop :=
  i < j ∧ ∀ k, i < k → k ≤ j → ∃ season ∈ s.seasons, season.index = k

/-- The episode itself, every later one of its season, and without `stay_in_season` every episode of the
    seasons that are reached from one season to the next. -/
def Follows (stayInSeason : Bool) (p q : s.Place) : Prop :=
  q.season.index = p.season.index ∧ p.episode.number ≤ q.episode.number ∨
    stayInSeason = false ∧ s.Chained p.season.index q.season.index

/-- What follows on a place comes behind it, or is the place. -/
theorem Follows.le (h : Follows stayInSeason p q) : q = p ∨ p.Before q := by
  rcases h with ⟨hindex, hle⟩ | ⟨-, hlt, -⟩
  · rcases hle.eq_or_lt with heq | hlt
    · exact .inl (Place.ext_of_numbers hindex heq.symm)
    · exact .inr (.inr ⟨hindex.symm, hlt⟩)
  · exact .inr (.inl hlt)

/-- What follows on the next place follows on this one. -/
theorem Step.follows (h : Step stayInSeason p q) (hr : Follows stayInSeason q r) : Follows stayInSeason p r := by
  rcases h with ⟨-, hseason, hnumber⟩ | ⟨-, hstay, hseason, -⟩
  · rcases hr with ⟨hindex, hle⟩ | ⟨hstay, hchain⟩
    · exact .inl ⟨hindex.trans hseason, by omega⟩
    · exact .inr ⟨hstay, hseason ▸ hchain⟩
  · -- The season of `q` is the one that the chain begins with.
    have hbegins : ∀ k, p.season.index < k → k ≤ q.season.index → ∃ season ∈ s.seasons, season.index = k :=
      fun k _ _ => ⟨q.season, q.season_mem, by omega⟩
    rcases hr with ⟨hindex, -⟩ | ⟨-, hlt, hchain⟩
    · exact .inr ⟨hstay, by omega, fun k hk hle => hbegins k hk (by omega)⟩
    · refine .inr ⟨hstay, by omega, fun k hk hle => ?_⟩
      rcases le_or_gt k q.season.index with hle' | hlt'
      · exact hbegins k hk hle'
      · exact hchain k hlt' hle

/-- A walk visits only what follows on its start. -/
theorem Walk.follows {visited : List s.Place} (h : Walk stayInSeason p visited) :
    ∀ q ∈ visited, Follows stayInSeason p q := by
  induction h with
  | last hlast =>
    intro q hq
    obtain rfl := List.mem_singleton.1 hq
    exact .inl ⟨rfl, le_rfl⟩
  | step hstep _ ih =>
    intro q hq
    rcases List.mem_cons.1 hq with rfl | hq
    · exact .inl ⟨rfl, le_rfl⟩
    · exact hstep.follows (ih q hq)

/-- It visits it in order. -/
theorem Walk.pairwise {visited : List s.Place} (h : Walk stayInSeason p visited) :
    visited.Pairwise Place.Before := by
  induction h with
  | last hlast => exact List.pairwise_singleton _ _
  | step hstep hrest ih =>
    refine List.pairwise_cons.2 ⟨fun q hq => ?_, ih⟩
    rcases (hrest.follows q hq).le with rfl | hbefore
    · exact hstep.before
    · exact hstep.before.trans hbefore

/-- The numbers behind an episode have no gap that ends the loop too early. -/
structure Gapless (stayInSeason : Bool) (start : s.Place) : Prop where
  later : start.season.FollowOn start.episode.number
  seasons : stayInSeason = false → ∀ t ∈ s.seasons, s.Chained start.season.index t.index → t.episodes ≠ [] →
    t.Numbered ∧ ∀ u ∈ s.seasons, u.index + 1 = t.index → u.Numbered ∧ u.episodes ≠ []

/-- The seasons before one that has episodes. -/
theorem Gapless.numbered_before (h : Gapless stayInSeason p) (hstay : stayInSeason = false) (d : ℕ) :
    ∀ t ∈ s.seasons, s.Chained p.season.index t.index → t.episodes ≠ [] → ∀ u ∈ s.seasons,
      p.season.index ≤ u.index → u.index + d + 1 = t.index → u.Numbered ∧ u.episodes ≠ [] := by
  induction d with
  | zero => exact fun t ht hchain hne u hu _ hindex => (h.seasons hstay t ht hchain hne).2 u hu (by omega)
  | succ d ih =>
    intro t ht hchain hne u hu hle hindex
    push_cast at hindex
    obtain ⟨v, hv, hvindex⟩ := hchain.2 (t.index - 1) (by omega) (by omega)
    refine ih v hv ⟨by omega, fun k hk hkle => hchain.2 k hk (by omega)⟩ ?_ u hu hle (by omega)
    exact ((h.seasons hstay t ht hchain hne).2 v hv (by omega)).2

/-- A season that is numbered from one on has a first episode. -/
theorem exists_first {t : Season} (ht : t ∈ s.seasons) (hnumbered : t.Numbered) (hne : t.episodes ≠ []) :
    ∃ q : s.Place, q.season = t ∧ q.episode.number = 1 := by
  obtain ⟨episode, hmem, hnumber⟩ := (hnumbered 1).2 ⟨le_rfl, List.length_pos_iff.2 hne⟩
  exact ⟨⟨t, episode, ht, hmem⟩, rfl, hnumber⟩

/-- Numbers are positive. -/
theorem Place.number_pos (p : s.Place) : 1 ≤ p.episode.number :=
  s.number_pos p.season p.season_mem p.episode p.episode_mem

/-- The loop does not stop before an episode that follows. -/
theorem Gapless.exists_step (h : Gapless stayInSeason p) (hq : Follows stayInSeason p q) (hne : q ≠ p) :
    ∃ r, Step stayInSeason p r := by
  have hwithin : p.episode.number ≠ p.season.episodes.length →
      (∃ e ∈ p.season.episodes, e.number = p.episode.number + 1) → ∃ r, Step stayInSeason p r :=
    fun hend ⟨e, he, hnumber⟩ => ⟨⟨p.season, e, p.season_mem, he⟩, .within hend rfl hnumber⟩
  rcases hq with ⟨hindex, hle⟩ | ⟨hstay, hchain⟩
  · have hmem : q.episode ∈ p.season.episodes := season_ext q.season_mem p.season_mem hindex ▸ q.episode_mem
    have hlt : p.episode.number < q.episode.number :=
      hle.lt_of_ne fun heq => hne (Place.ext_of_numbers hindex heq.symm)
    obtain ⟨hend, hsucc⟩ := h.later.exists_succ hmem hlt
    exact hwithin hend hsucc
  · have hqne := List.ne_nil_of_mem q.episode_mem
    have hlt := hchain.1
    have hbefore := fun d => h.numbered_before hstay d q.season q.season_mem hchain hqne
    obtain ⟨hnumbered, -⟩ :=
      hbefore (q.season.index - p.season.index - 1).toNat p.season p.season_mem le_rfl (by omega)
    by_cases hend : p.episode.number = p.season.episodes.length
    · obtain ⟨t, ht, htindex⟩ := hchain.2 (p.season.index + 1) (by omega) (by omega)
      have hnext : t.Numbered ∧ t.episodes ≠ [] := by
        rcases (show t.index ≤ q.season.index by omega).eq_or_lt with heq | hlt'
        · rw [season_ext ht q.season_mem heq]
          exact ⟨(h.seasons hstay q.season q.season_mem hchain hqne).1, hqne⟩
        · exact hbefore (q.season.index - t.index - 1).toNat t ht (by omega) (by omega)
      obtain ⟨r, rfl, hnumber⟩ := exists_first ht hnext.1 hnext.2
      exact ⟨r, .across hend hstay htindex hnumber⟩
    · have hle := ((hnumbered p.episode.number).1 ⟨p.episode, p.episode_mem, rfl⟩).2
      exact hwithin hend ((hnumbered (p.episode.number + 1)).2 ⟨by omega, by omega⟩)

/-- Behind the first season of a chain. -/
theorem Chained.of_next {i j : ℤ} (h : s.Chained i j) (hne : j ≠ i + 1) : s.Chained (i + 1) j := by
  obtain ⟨hlt, hchain⟩ := h
  exact ⟨by omega, fun k hk hle => hchain k (by omega) hle⟩

/-- Behind a step there are no gaps either, and nothing was left out. -/
theorem Gapless.step (h : Gapless stayInSeason p) (hstep : Step stayInSeason p q) :
    Gapless stayInSeason q ∧ ∀ r, Follows stayInSeason p r → r = p ∨ Follows stayInSeason q r := by
  rcases hstep with ⟨hend, hseason, hnumber⟩ | ⟨hend, hstay, hseason, hnumber⟩
  · have heq := season_ext q.season_mem p.season_mem hseason
    refine ⟨⟨?_, ?_⟩, fun r hr => ?_⟩
    · rw [heq]
      exact h.later.mono (by omega)
    · rw [hseason]
      exact h.seasons
    · rcases hr.le with rfl | hbefore
      · exact .inl rfl
      · rw [Place.Before] at hbefore
        rcases hr with ⟨hindex, hle⟩ | ⟨hstay, hchain⟩
        · exact .inr (.inl ⟨by omega, by omega⟩)
        · exact .inr (.inr ⟨hstay, hseason ▸ hchain⟩)
  · have hchain : s.Chained p.season.index q.season.index :=
      ⟨by omega, fun k _ _ => ⟨q.season, q.season_mem, by omega⟩⟩
    refine ⟨⟨?_, fun _ t ht ht' => ?_⟩, fun r hr => ?_⟩
    · rw [hnumber]
      exact (h.seasons hstay q.season q.season_mem hchain (List.ne_nil_of_mem q.episode_mem)).1.followOn le_rfl
    · obtain ⟨hlt, hbehind⟩ := ht'
      refine h.seasons hstay t ht ⟨by omega, fun k hk hle => ?_⟩
      rcases le_or_gt k q.season.index with hle' | hlt'
      · exact hchain.2 k hk hle'
      · exact hbehind k hlt' hle
    · rcases hr with ⟨hindex, hle⟩ | ⟨-, hchain'⟩
      · -- An episode of the season that is left would come after its last number.
        rcases hle.eq_or_lt with heq | hlt
        · exact .inl (Place.ext_of_numbers hindex heq.symm)
        · have hmem : r.episode ∈ p.season.episodes := season_ext r.season_mem p.season_mem hindex ▸ r.episode_mem
          exact absurd hend (h.later.exists_succ hmem hlt).1
      · by_cases hindex : r.season.index = p.season.index + 1
        · exact .inr (.inl ⟨by omega, hnumber ▸ r.number_pos⟩)
        · exact .inr (.inr ⟨hstay, hseason ▸ hchain'.of_next hindex⟩)

/-- Without gaps behind a step that leaves nothing out there are none at all. -/
theorem Gapless.of_step (hstep : Step stayInSeason p q) (hq : Gapless stayInSeason q)
    (hcover : ∀ r, Follows stayInSeason p r → r = p ∨ Follows stayInSeason q r) : Gapless stayInSeason p := by
  rcases hstep with ⟨hend, hseason, hnumber⟩ | ⟨hend, hstay, hseason, hnumber⟩
  · refine ⟨fun episode hmem hlt => ?_, hseason ▸ hq.seasons⟩
    rcases Nat.lt_or_ge q.episode.number episode.number with hlt' | hge
    · rw [← season_ext q.season_mem p.season_mem hseason] at hmem ⊢
      exact hq.later episode hmem hlt'
    · exact ⟨by omega, p.episode, p.episode_mem, by omega⟩
  · have hlast : ∀ episode ∈ p.season.episodes, episode.number ≤ p.season.episodes.length := by
      intro episode hmem
      by_contra hgt
      rcases hcover ⟨p.season, episode, p.season_mem, hmem⟩ (.inl ⟨rfl, by dsimp only; omega⟩) with heq | hfollows
      · have hepisode : episode = p.episode := congrArg Place.episode heq
        rw [hepisode] at hgt
        omega
      · have hindex : q.season.index ≤ p.season.index := by
          rcases hfollows with ⟨hindex, -⟩ | ⟨-, hlt, -⟩
          · exact hindex.ge
          · exact hlt.le
        omega
    have hnumbered : p.season.Numbered :=
      Season.numbered_of_le (s.numbers_nodup _ p.season_mem) (s.number_pos _ p.season_mem) hlast
    refine ⟨fun episode hmem hlt => ?_, fun _ t ht hchain hne => ?_⟩
    · exact absurd (hlt.trans_le (hlast episode hmem)) (hend ▸ lt_irrefl _)
    · by_cases hindex : t.index = p.season.index + 1
      · obtain rfl := season_ext q.season_mem ht (by omega)
        refine ⟨?_, fun u hu huindex => ?_⟩
        · exact Season.numbered_of_followOn (s.numbers_nodup _ ht) (s.number_pos _ ht) (hnumber ▸ hq.later)
            ⟨q.episode, q.episode_mem, hnumber⟩
        · rw [season_ext hu p.season_mem (by omega)]
          exact ⟨hnumbered, List.ne_nil_of_mem p.episode_mem⟩
      · exact hq.seasons hstay t ht (hseason ▸ hchain.of_next hindex) hne

/-- Where nothing else follows there are no gaps. -/
theorem gapless_of_unique (h : ∀ q, Follows stayInSeason p q → q = p) : Gapless stayInSeason p := by
  refine ⟨fun episode hmem hlt => ?_, fun hstay t ht hchain hne => ?_⟩
  · have heq := h ⟨p.season, episode, p.season_mem, hmem⟩ (.inl ⟨rfl, hlt.le⟩)
    have hepisode : episode = p.episode := congrArg Place.episode heq
    rw [hepisode] at hlt
    exact absurd hlt (lt_irrefl _)
  · obtain ⟨episode, hmem⟩ := List.exists_mem_of_ne_nil _ hne
    have heq := h ⟨t, episode, ht, hmem⟩ (.inr ⟨hstay, hchain⟩)
    have hseason : t = p.season := congrArg Place.season heq
    exact absurd hchain.1 (by rw [hseason]; exact lt_irrefl _)

/-- The loop visits all that follow if and only if there is no gap. -/
theorem Walk.complete_iff {visited : List s.Place} (h : Walk stayInSeason p visited) :
    (∀ q, Follows stayInSeason p q → q ∈ visited) ↔ Gapless stayInSeason p := by
  induction h with
  | @last p hlast =>
    constructor
    · exact fun hall => gapless_of_unique fun q hq => List.mem_singleton.1 (hall q hq)
    · intro hgapless q hq
      refine List.mem_singleton.2 (by_contra fun hne => ?_)
      obtain ⟨r, hstep⟩ := hgapless.exists_step hq hne
      exact hlast r hstep
  | @step p q visited hstep hrest ih =>
    constructor
    · intro hall
      have hrest' : ∀ r, Follows stayInSeason p r → r = p ∨ r ∈ visited :=
        fun r hr => List.mem_cons.1 (hall r hr)
      have hq : Gapless stayInSeason q := by
        refine ih.1 fun r hr => ((hrest' r (hstep.follows hr)).resolve_left ?_)
        rcases hr.le with rfl | hbefore
        · exact hstep.before.ne
        · exact (hstep.before.trans hbefore).ne
      exact .of_step hstep hq fun r hr => (hrest' r hr).imp_right (hrest.follows r)
    · intro hgapless r hr
      obtain ⟨hq, hcover⟩ := hgapless.step hstep
      rcases hcover r hr with rfl | hr
      · exact List.mem_cons_self
      · exact List.mem_cons_of_mem _ (ih.2 hq r hr)

/-- Different places are queued differently. -/
theorem queued_injective (pathMapping : Text → Text) :
    Function.Injective (Place.queued pathMapping : s.Place → PlexServer.Queued) := by
  intro p q h
  have hkey : p.episode.ratingKey = q.episode.ratingKey := congrArg PlexServer.Queued.plexItemId h
  obtain ⟨hseason, hepisode⟩ :=
    Prod.mk.inj (List.inj_on_of_nodup_map nodup_entries p.mem_entries q.mem_entries hkey)
  exact Place.ext hseason hepisode

/-- What is queued from a place is determined. -/
theorem Queues.unique {pathMapping : Text → Text} {places places' : List s.Place}
    (h : Queues pathMapping stayInSeason p places) (h' : Queues pathMapping stayInSeason p places') :
    places = places' := by
  obtain ⟨enough, h⟩ := h
  obtain ⟨enough', h'⟩ := h'
  have heq := (h (max enough enough') (le_max_left _ _)).symm.trans (h' _ (le_max_right _ _))
  exact List.map_injective_iff.2 (queued_injective pathMapping) (Option.some.inj heq)

/-- The loop ends, and has queued each of the episodes that follow once, in their order. -/
def QueuesFollowing (pathMapping : Text → Text) (stayInSeason : Bool) (start : s.Place) : Prop :=
  ∃ places, Queues pathMapping stayInSeason start places ∧ places.Pairwise Place.Before ∧
    ∀ p, p ∈ places ↔ Follows stayInSeason start p

/-- All that follows is queued if and only if there are no gaps. -/
theorem queuesFollowing_iff {pathMapping : Text → Text} {start : s.Place} :
    QueuesFollowing pathMapping stayInSeason start ↔ Gapless stayInSeason start := by
  obtain ⟨visited, hwalk⟩ := exists_walk start
  constructor
  · rintro ⟨places, hqueues, -, hmem⟩
    obtain rfl := hqueues.unique hwalk.queues
    exact hwalk.complete_iff.1 fun q => (hmem q).2
  · exact fun hgapless =>
      ⟨visited, hwalk.queues, hwalk.pairwise, fun q => ⟨hwalk.follows q, hwalk.complete_iff.2 hgapless q⟩⟩

/-- The loop always ends, and it queues the episodes that follow if and only if the numbers have no gap. -/
theorem queues_following_iff (s : Show) (pathMapping : Text → Text) (stayInSeason : Bool) (start : s.Place) :
    (∃ places, Queues pathMapping stayInSeason start places) ∧
      (QueuesFollowing pathMapping stayInSeason start ↔ Gapless stayInSeason start) := by
  obtain ⟨visited, hwalk⟩ := exists_walk start
  exact ⟨⟨visited, hwalk.queues⟩, queuesFollowing_iff⟩

/-- A season whose first episode is not in the library. -/
def incompleteSeason : Season where
  ratingKey := text "season-1"
  index := 1
  episodes := [⟨text "episode-2", 2, text "/media/2.mkv"⟩, ⟨text "episode-3", 3, text "/media/3.mkv"⟩]

/-- A show whose only season has no first episode. -/
def incompleteShow : Show where
  ratingKey := text "show"
  seasons := [incompleteSeason]
  indices_nodup := by decide
  seasonKeys_nodup := by decide
  episodeKeys_nodup := by decide
  numbers_nodup := by decide
  number_pos := by decide

/-- Its first episode, which has the number two. -/
def secondEpisode : incompleteShow.Place where
  season := incompleteSeason
  episode := ⟨text "episode-2", 2, text "/media/2.mkv"⟩
  season_mem := by decide
  episode_mem := by decide

/-- The second of the two episodes has the number of episodes behind it, and the loop stops before it. -/
theorem third_episode_missed : ¬ QueuesFollowing id true secondEpisode := fun h =>
  absurd rfl ((queuesFollowing_iff.1 h).later ⟨text "episode-3", 3, text "/media/3.mkv"⟩ (by decide) (by decide)).1

end Show

end Subgen
